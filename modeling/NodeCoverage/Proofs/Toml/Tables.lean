import NodeCoverage.Proofs.Toml.Statements

/-!
# Building tables

A document of tables whose names differ, with keys that differ in each, is built as it stands. In
whatever way a document is built, a path that it has a statement about leads somewhere in the end:
nothing that was added is ever taken away.

Results:
* `Entries.ofStatements_tables`: tables are built as they stand;
* `modify_leads`, `modify_leads_append`: what one change keeps, and where it leads;
* `Entries.leads_of_statement`: every path that is stated leads somewhere.
-/

namespace NodeCoverage.Toml

namespace Entries

variable {key k : String} {path p q : List String} {node : Node} {v : Value} {x : String × Node}
  {entries entries' inner more : Entries} {origin created : Origin}
  {change : Origin → Entries → Option Entries}

/-! ## Looking things up -/

theorem node?_cons (x : String × Node) (entries : Entries) (key : String) :
    node? (x :: entries) key = if x.1 = key then some x.2 else node? entries key := by
  unfold node?
  by_cases h : x.1 = key
  · rw [List.find?_cons_of_pos (by simp [h]), if_pos h]
    rfl
  · rw [List.find?_cons_of_neg (by simp [h]), if_neg h]

theorem node?_eq_none_iff : node? entries key = none ↔ key ∉ entries.map Prod.fst := by
  induction entries with
  | nil => simp [node?]
  | cons x entries ih =>
    rw [node?_cons, List.map_cons, List.mem_cons, not_or]
    by_cases h : x.1 = key
    · simp [h]
    · rw [if_neg h, ih]
      exact (and_iff_right (Ne.symm h)).symm

theorem mem_of_node?_eq_some (h : node? entries key = some node) : (key, node) ∈ entries := by
  obtain ⟨x, hx, rfl⟩ := Option.map_eq_some_iff.mp h
  obtain rfl : x.1 = key := by simpa using List.find?_some hx
  exact List.mem_of_find?_eq_some hx

theorem node?_append (h : node? entries key = some node) :
    node? (entries ++ more) key = some node := by
  obtain ⟨x, hx, rfl⟩ := Option.map_eq_some_iff.mp h
  unfold node?
  rw [List.find?_append, hx]
  rfl

theorem node?_append_self (h : node? entries key = none) :
    node? (entries ++ [(key, node)]) key = some node := by
  unfold node?
  rw [List.find?_append, Option.map_eq_none_iff.mp h]
  simp

theorem put_cons (x : String × Node) (entries : Entries) (key : String) (node : Node) :
    put (x :: entries) key node =
      (if x.1 = key then (key, node) else x) :: put entries key node := by
  simp [put]

theorem without_cons (x : String × Node) (entries : Entries) (key : String) :
    without (x :: entries) key =
      if x.1 = key then without entries key else x :: without entries key := by
  by_cases h : x.1 = key <;> simp [without, h]

theorem node?_put_self (h : (node? entries key).isSome = true) :
    node? (put entries key node) key = some node := by
  induction entries with
  | nil => cases h
  | cons x entries ih =>
    rw [put_cons, node?_cons]
    by_cases hx : x.1 = key
    · rw [if_pos hx, if_pos rfl]
    · rw [node?_cons, if_neg hx] at h
      rw [if_neg hx, if_neg hx, ih h]

theorem node?_put_of_ne (h : k ≠ key) : node? (put entries key node) k = node? entries k := by
  induction entries with
  | nil => rfl
  | cons x entries ih =>
    rw [put_cons, node?_cons, node?_cons, ih]
    by_cases hx : x.1 = key
    · rw [if_pos hx, if_neg (Ne.symm h), if_neg (hx ▸ Ne.symm h)]
    · rw [if_neg hx]

theorem node?_without_of_ne (h : k ≠ key) : node? (without entries key) k = node? entries k := by
  induction entries with
  | nil => rfl
  | cons x entries ih =>
    rw [without_cons, node?_cons]
    by_cases hx : x.1 = key
    · rw [if_pos hx, ih, if_neg (hx ▸ Ne.symm h)]
    · rw [if_neg hx, node?_cons, ih]

theorem node?_without_self : node? (without entries key) key = none := by
  rw [node?_eq_none_iff]
  simp [without]

/-! ## Where paths lead -/

/-- The path leads somewhere from a table. -/
def Leads : List String → Entries → Prop
  | [], _ => True
  | key :: path, entries =>
    match node? entries key with
    | none => False
    | some (.value _) => path = []
    | some (.table _ inner) => Leads path inner
    | some (.tables elements) => ∃ inner ∈ elements, Leads path inner

/-- The path leads somewhere from a thing. -/
def LeadsFrom (path : List String) : Node → Prop
  | .value _ => path = []
  | .table _ inner => Leads path inner
  | .tables elements => ∃ inner ∈ elements, Leads path inner

theorem leads_cons_iff : Leads (key :: path) entries ↔
    ∃ node, node? entries key = some node ∧ LeadsFrom path node := by
  rw [Leads]
  cases node? entries key with
  | none => simp
  | some node => cases node <;> simp [LeadsFrom]

theorem Leads.of_append (h : Leads (p ++ q) entries) : Leads p entries := by
  induction p generalizing entries with
  | nil => trivial
  | cons key path ih =>
    obtain ⟨node, hnode, hleads⟩ := leads_cons_iff.mp h
    refine leads_cons_iff.mpr ⟨node, hnode, ?_⟩
    cases node with
    | value v => exact (List.append_eq_nil_iff.mp hleads).1
    | table origin inner => exact ih hleads
    | tables elements =>
      obtain ⟨inner, hmem, hinner⟩ := hleads
      exact ⟨inner, hmem, ih hinner⟩

/-- Where a thing is looked up alike, paths lead alike. -/
theorem Leads.of_node?_eq (h : Leads (key :: path) entries)
    (heq : node? entries' key = node? entries key) : Leads (key :: path) entries' := by
  rwa [Leads, heq, ← Leads]

theorem Leads.append (h : Leads p entries) : Leads p (entries ++ more) := by
  cases p with
  | nil => trivial
  | cons key path =>
    obtain ⟨node, hnode, -⟩ := leads_cons_iff.mp h
    exact h.of_node?_eq ((node?_append hnode).trans hnode.symm)

/-- A change that keeps paths leading somewhere. -/
def Keeps (change : Origin → Entries → Option Entries) : Prop :=
  ∀ origin entries entries', change origin entries = some entries' →
    ∀ p, Leads p entries → Leads p entries'

/-- A change after which a path leads somewhere. -/
def Makes (change : Origin → Entries → Option Entries) (p : List String) : Prop :=
  ∀ origin entries entries', change origin entries = some entries' → Leads p entries'

/-- What a change at the end of a path comes to: a thing is there or not, and it is changed by
what a change at the end of the rest comes to. -/
theorem modify_cons_eq_some
    (h : modify created change (key :: path) origin entries = some entries') :
    (∃ inner, node? entries key = none ∧ modify created change path created [] = some inner ∧
      entries' = entries ++ [(key, .table created inner)]) ∨
    (∃ given inner inner', node? entries key = some (.table given inner) ∧
      modify created change path given inner = some inner' ∧
      entries' = put entries key (.table given inner')) ∨
    ∃ elements last last', node? entries key = some (.tables elements) ∧
      elements.getLast? = some last ∧ modify created change path .explicit last = some last' ∧
      entries' = put entries key (.tables (elements.dropLast ++ [last'])) := by
  rw [modify] at h
  split at h
  · next hnode =>
    obtain ⟨inner, hinner, heq⟩ := Option.bind_eq_some_iff.mp h
    exact .inl ⟨inner, hnode, hinner, (Option.some.inj heq).symm⟩
  · cases h
  · next given inner hnode =>
    obtain ⟨-, -, h⟩ := Option.bind_eq_some_iff.mp h
    obtain ⟨inner', hinner, heq⟩ := Option.bind_eq_some_iff.mp h
    exact .inr (.inl ⟨given, inner, inner', hnode, hinner, (Option.some.inj heq).symm⟩)
  · next elements hnode =>
    obtain ⟨last, hlast, h⟩ := Option.bind_eq_some_iff.mp h
    obtain ⟨last', hlast', heq⟩ := Option.bind_eq_some_iff.mp h
    exact .inr (.inr ⟨elements, last, last', hnode, hlast, hlast', (Option.some.inj heq).symm⟩)

/-- Another thing takes the place of one if paths lead on from it as from that one. -/
theorem Leads.put (h : Leads p entries) (hnode : ∀ path given, p = key :: path →
    node? entries key = some given → LeadsFrom path given → LeadsFrom path node) :
    Leads p (put entries key node) := by
  cases p with
  | nil => trivial
  | cons k path =>
    obtain ⟨given, hgiven, hleads⟩ := leads_cons_iff.mp h
    by_cases hk : k = key
    · subst hk
      exact leads_cons_iff.mpr ⟨node, node?_put_self (by rw [hgiven]; rfl),
        hnode path given rfl hgiven hleads⟩
    · exact h.of_node?_eq (node?_put_of_ne hk)

/-- **A change at the end of a path** keeps paths leading somewhere, if it does so there. -/
theorem Keeps.modify (hchange : Keeps change) (path : List String) :
    Keeps (modify created change path) := by
  induction path with
  | nil => exact hchange
  | cons key path ih =>
    intro origin entries entries' h p hp
    rcases modify_cons_eq_some h with ⟨inner, hnode, -, rfl⟩ |
      ⟨given, inner, inner', hnode, hinner, rfl⟩ |
      ⟨elements, last, last', hnode, hlast, hlast', rfl⟩
    · exact hp.append
    · refine hp.put fun path' _ _ hgiven hleads => ?_
      cases Option.some.inj (hnode.symm.trans hgiven)
      exact ih _ _ _ hinner _ hleads
    · refine hp.put fun path' _ _ hgiven hleads => ?_
      cases Option.some.inj (hnode.symm.trans hgiven)
      obtain ⟨inner, hmem, hinner⟩ := hleads
      rw [← List.dropLast_append_getLast? last hlast] at hmem
      rcases List.mem_append.mp hmem with hmem | hmem
      · exact ⟨inner, List.mem_append_left _ hmem, hinner⟩
      · cases List.mem_singleton.mp hmem
        exact ⟨last', List.mem_append_right _ List.mem_cons_self, ih _ _ _ hlast' _ hinner⟩

/-- **After a change at the end of a path**, the path leads to what the change made. -/
theorem Makes.modify (hchange : Makes change q) (path : List String) :
    Makes (modify created change path) (path ++ q) := by
  induction path with
  | nil => exact hchange
  | cons key path ih =>
    intro origin entries entries' h
    rw [List.cons_append, leads_cons_iff]
    rcases modify_cons_eq_some h with ⟨inner, hnode, hinner, rfl⟩ |
      ⟨given, inner, inner', hnode, hinner, rfl⟩ |
      ⟨elements, last, last', hnode, hlast, hlast', rfl⟩
    · exact ⟨_, node?_append_self hnode, ih _ _ _ hinner⟩
    · exact ⟨_, node?_put_self (by rw [hnode]; rfl), ih _ _ _ hinner⟩
    · exact ⟨_, node?_put_self (by rw [hnode]; rfl), last',
        List.mem_append_right _ List.mem_cons_self, ih _ _ _ hlast'⟩

/-! ## Assignments -/

variable {assignments : List (List String × Value)}

theorem of_guard {c : Prop} [Decidable c] {u : Unit} (h : guard c = some u) : c := by
  by_contra hc
  rw [guard, if_neg hc] at h
  cases h

theorem leads_assign (h : assign entries path key v = some entries') :
    Leads (path ++ [key]) entries' ∧ ∀ p, Leads p entries → Leads p entries' := by
  constructor
  · refine Makes.modify (fun origin inner inner' h => ?_) path _ _ _ h
    obtain ⟨-, -, h⟩ := Option.bind_eq_some_iff.mp h
    obtain ⟨_, hguard, heq⟩ := Option.bind_eq_some_iff.mp h
    cases heq
    have hnone : node? inner key = none := Option.isNone_iff_eq_none.mp (of_guard hguard)
    exact leads_cons_iff.mpr ⟨_, node?_append_self hnone, rfl⟩
  · refine Keeps.modify (fun origin inner inner' h p hp => ?_) path _ _ _ h
    obtain ⟨-, -, h⟩ := Option.bind_eq_some_iff.mp h
    obtain ⟨-, -, heq⟩ := Option.bind_eq_some_iff.mp h
    cases heq
    exact hp.append

/-- What holds of what is made from the first on. -/
theorem foldlM_keeps {α β : Type} {f : β → α → Option β} {P : β → Prop}
    (hf : ∀ b a b', f b a = some b' → P b → P b') {l : List α} {b b' : β}
    (h : l.foldlM f b = some b') (hb : P b) : P b' := by
  induction l generalizing b with
  | nil =>
    cases h
    exact hb
  | cons a l ih =>
    rw [List.foldlM_cons] at h
    obtain ⟨c, hc, h⟩ := Option.bind_eq_some_iff.mp h
    exact ih h (hf b a c hc hb)

/-- What each step makes and all later ones keep holds in the end. -/
theorem foldlM_makes {α β : Type} {f : β → α → Option β} {Q : α → β → Prop}
    (hself : ∀ b a b', f b a = some b' → Q a b')
    (hf : ∀ x b a b', f b a = some b' → Q x b → Q x b') {l : List α} {b b' : β}
    (h : l.foldlM f b = some b') {a : α} (ha : a ∈ l) : Q a b' := by
  induction l generalizing b with
  | nil => cases ha
  | cons c l ih =>
    rw [List.foldlM_cons] at h
    obtain ⟨d, hd, hrest⟩ := Option.bind_eq_some_iff.mp h
    rcases List.mem_cons.mp ha with rfl | ha
    · exact foldlM_keeps (hf a) hrest (hself b a d hd)
    · exact ih hrest ha

/-- **Values that are given** are where their paths lead, and nothing is taken away. -/
theorem leads_assignAll (h : assignAll entries assignments = some entries') :
    (∀ x ∈ assignments, Leads x.1 entries') ∧ ∀ p, Leads p entries → Leads p entries' := by
  have hstep (entries : Entries) (x : List String × Value) (entries' : Entries)
      (h : (do assign entries x.1.dropLast (← x.1.getLast?) x.2) = some entries') :
      Leads x.1 entries' ∧ ∀ p, Leads p entries → Leads p entries' := by
    obtain ⟨key, hkey, h⟩ := Option.bind_eq_some_iff.mp h
    rw [← List.dropLast_append_getLast? key hkey]
    exact leads_assign h
  exact ⟨fun x => foldlM_makes (fun b x b' h => (hstep b x b' h).1)
      (fun x b a b' h => (hstep b a b' h).2 x.1) h,
    fun p => foldlM_keeps (fun b x b' h => (hstep b x b' h).2 p) h⟩

/-! ## Headers -/

/-- The table of a header is added at the end of its path: what was there, if it only lay on the
way to another header, with what is given below the header. -/
theorem addTable_eq_some (h : addTable entries path assignments = some entries') :
    ∃ key change, path.dropLast ++ [key] = path ∧
      modify .implied change path.dropLast .explicit entries = some entries' ∧
      ∀ origin parent parent', change origin parent = some parent' →
        ∃ given made, (given = [] ∧ node? parent key = none ∨
            node? parent key = some (.table .implied given)) ∧
          assignAll given assignments = some made ∧
          parent' = without parent key ++ [(key, .table .explicit made)] := by
  obtain ⟨key, hkey, h⟩ := Option.bind_eq_some_iff.mp h
  refine ⟨key, _, List.dropLast_append_getLast? key hkey, h, fun origin parent parent' h => ?_⟩
  dsimp only at h
  split at h
  · next hnone =>
    obtain ⟨_, hnil, h⟩ := Option.bind_eq_some_iff.mp h
    cases hnil
    obtain ⟨made, hmade, heq⟩ := Option.bind_eq_some_iff.mp h
    exact ⟨[], made, .inl ⟨rfl, hnone⟩, hmade, (Option.some.inj heq).symm⟩
  · next given hgiven =>
    obtain ⟨_, hsome, h⟩ := Option.bind_eq_some_iff.mp h
    cases hsome
    obtain ⟨made, hmade, heq⟩ := Option.bind_eq_some_iff.mp h
    exact ⟨given, made, .inr hgiven, hmade, (Option.some.inj heq).symm⟩
  · obtain ⟨_, hnone, -⟩ := Option.bind_eq_some_iff.mp h
    cases hnone

/-- **What a header adds** keeps paths leading somewhere, and so does what is given below it. -/
theorem leads_addTable (h : addTable entries path assignments = some entries') :
    (Leads path entries' ∧ ∀ x ∈ assignments, Leads (path ++ x.1) entries') ∧
      ∀ p, Leads p entries → Leads p entries' := by
  obtain ⟨key, change, hpath, hmodify, hchange⟩ := addTable_eq_some h
  have hmakes (q : List String) (hq : ∀ given made, assignAll given assignments = some made →
      Leads q made) : Leads (path ++ q) entries' := by
    rw [← hpath, List.append_assoc]
    refine Makes.modify (fun origin parent parent' h => ?_) path.dropLast _ _ _ hmodify
    obtain ⟨given, made, -, hmade, rfl⟩ := hchange _ _ _ h
    exact leads_cons_iff.mpr ⟨_, node?_append_self node?_without_self, hq given made hmade⟩
  refine ⟨⟨?_, fun x hx => hmakes x.1 fun _ _ h => (leads_assignAll h).1 x hx⟩,
    Keeps.modify (fun origin parent parent' h p hp => ?_) path.dropLast _ _ _ hmodify⟩
  · rw [← List.append_nil path]
    exact hmakes [] fun _ _ _ => trivial
  · obtain ⟨given, made, hgiven, hmade, rfl⟩ := hchange _ _ _ h
    cases p with
    | nil => trivial
    | cons k p =>
      obtain ⟨node, hnode, hleads⟩ := leads_cons_iff.mp hp
      by_cases hk : k = key
      · subst hk
        rcases hgiven with ⟨-, hnone⟩ | hgiven
        · cases hnone.symm.trans hnode
        · cases Option.some.inj (hgiven.symm.trans hnode)
          exact leads_cons_iff.mpr ⟨_, node?_append_self node?_without_self,
            (leads_assignAll hmade).2 p hleads⟩
      · exact leads_cons_iff.mpr ⟨node, node?_append ((node?_without_of_ne hk).trans hnode), hleads⟩

theorem leads_addElement (h : addElement entries path assignments = some entries') :
    (Leads path entries' ∧ ∀ x ∈ assignments, Leads (path ++ x.1) entries') ∧
      ∀ p, Leads p entries → Leads p entries' := by
  obtain ⟨key, hkey, h⟩ := Option.bind_eq_some_iff.mp h
  obtain ⟨element, helement, h⟩ := Option.bind_eq_some_iff.mp h
  have hpath := List.dropLast_append_getLast? key hkey
  have hmade (q : List String) (hq : Leads q element) : Leads (path ++ q) entries' := by
    rw [← hpath, List.append_assoc]
    refine Makes.modify (fun origin parent parent' h => ?_) path.dropLast _ _ _ h
    split at h
    · next hnone =>
      cases h
      exact leads_cons_iff.mpr ⟨_, node?_append_self hnone, element, List.mem_cons_self, hq⟩
    · next elements hsome =>
      cases h
      exact leads_cons_iff.mpr ⟨_, node?_put_self (by rw [hsome]; rfl), element,
        List.mem_append_right _ List.mem_cons_self, hq⟩
    · cases h
  refine ⟨⟨?_, fun x hx => hmade x.1 ((leads_assignAll helement).1 x hx)⟩, ?_⟩
  · rw [← List.append_nil path]
    exact hmade [] trivial
  · refine Keeps.modify (fun origin parent parent' h p hp => ?_) path.dropLast _ _ _ h
    split at h
    · cases h
      exact hp.append
    · next elements hsome =>
      cases h
      refine hp.put fun path' _ _ hgiven hleads => ?_
      cases Option.some.inj (hsome.symm.trans hgiven)
      obtain ⟨inner, hmem, hinner⟩ := hleads
      exact ⟨inner, List.mem_append_left _ hmem, hinner⟩
    · cases h

theorem leads_addSection {x : Header × List (List String × Value)}
    (h : addSection entries x = some entries') :
    (Leads x.1.path entries' ∧ ∀ y ∈ x.2, Leads (x.1.path ++ y.1) entries') ∧
      ∀ p, Leads p entries → Leads p entries' := by
  obtain ⟨header, assignments⟩ := x
  cases header with
  | table path => exact leads_addTable h
  | element path => exact leads_addElement h

end Entries

/-! ## Statements -/

/-- A statement is one of the group that it belongs to, before the first header or below one. -/
theorem mem_group (above : List String) (done : List Statement) (b : Statement)
    (more : List Statement) :
    (∃ x ∈ (group (done ++ b :: more)).1, b.path (below above done) = above ++ x.1) ∨
      ∃ x ∈ (group (done ++ b :: more)).2, b.path (below above done) = x.1.path ∨
        ∃ y ∈ x.2, b.path (below above done) = x.1.path ++ y.1 := by
  induction done generalizing above with
  | nil =>
    cases b with
    | assignment path v => exact .inl ⟨_, List.mem_cons_self, rfl⟩
    | header h => exact .inr ⟨_, List.mem_cons_self, .inl rfl⟩
  | cons c done ih =>
    cases c with
    | assignment path v =>
      exact (ih above).imp_left fun ⟨x, hx, heq⟩ => ⟨x, List.mem_cons_of_mem _ hx, heq⟩
    | header h =>
      rcases ih h.path with ⟨x, hx, heq⟩ | ⟨x, hx, hb⟩
      · exact .inr ⟨_, List.mem_cons_self, .inr ⟨x, hx, heq⟩⟩
      · exact .inr ⟨x, List.mem_cons_of_mem _ hx, hb⟩

/-- **Every path that is stated** leads somewhere in the end. -/
theorem Entries.leads_of_statement {done more : List Statement} {b : Statement} {root : Entries}
    (h : Entries.ofStatements (done ++ b :: more) = some root) :
    Entries.Leads (b.path (below [] done)) root := by
  obtain ⟨first, hfirst, hroot⟩ := Option.bind_eq_some_iff.mp h
  have hkeeps (p : List String) : Entries.Leads p first → Entries.Leads p root :=
    Entries.foldlM_keeps (fun _ _ _ h => (Entries.leads_addSection h).2 p) hroot
  have hmakes (x : Header × List (List String × Value)) (hx : x ∈ (group (done ++ b :: more)).2) :
      Entries.Leads x.1.path root ∧ ∀ y ∈ x.2, Entries.Leads (x.1.path ++ y.1) root :=
    Entries.foldlM_makes (f := Entries.addSection)
      (Q := fun x root =>
        Entries.Leads x.1.path root ∧ ∀ y ∈ x.2, Entries.Leads (x.1.path ++ y.1) root)
      (fun _ _ _ h => (Entries.leads_addSection h).1)
      (fun _ _ _ _ h hx => ⟨(Entries.leads_addSection h).2 _ hx.1,
        fun y hy => (Entries.leads_addSection h).2 _ (hx.2 y hy)⟩) hroot hx
  rcases mem_group [] done b more with ⟨x, hx, heq⟩ | ⟨x, hx, heq | ⟨y, hy, heq⟩⟩
  · rw [heq, List.nil_append]
    exact hkeeps _ ((Entries.leads_assignAll hfirst).1 x hx)
  · rw [heq]
    exact (hmakes x hx).1
  · rw [heq]
    exact (hmakes x hx).2 y hy

/-! ## Tables one after another -/

section Tables

variable {key : String} {v : Value} {root made : Entries} {es : List (String × Value)}
  {tables : List (String × List (String × Value))} {ss : List Statement}
  {assignments : List (List String × Value)}

/-- The entries of a table with the values of its keys. -/
def valuesOf (es : List (String × Value)) : Entries :=
  es.map fun x => (x.1, .value x.2)

theorem node?_append_eq_none {k : String} {node : Node} (h : Entries.node? root k = none)
    (hne : k ≠ key) : Entries.node? (root ++ [(key, node)]) k = none := by
  rw [Entries.node?_eq_none_iff] at h ⊢
  rw [List.map_append, List.mem_append, not_or]
  exact ⟨h, fun hmem => hne (List.mem_singleton.mp hmem)⟩

theorem assign_of_node?_eq_none (h : Entries.node? root key = none) :
    Entries.assign root [] key v = some (root ++ [(key, .value v)]) := by
  unfold Entries.assign Entries.modify
  simp [h, guard]

theorem assignAll_cons (path : List String) (v : Value) :
    Entries.assignAll root ((path ++ [key], v) :: assignments) =
      (Entries.assign root path key v).bind fun root => Entries.assignAll root assignments := by
  unfold Entries.assignAll
  rw [List.foldlM_cons]
  simp

/-- **Values for keys that differ** are added one after another. -/
theorem assignAll_eq (hnodup : (es.map Prod.fst).Nodup)
    (hnew : ∀ x ∈ es, Entries.node? root x.1 = none) :
    Entries.assignAll root (es.map fun x => ([x.1], x.2)) = some (root ++ valuesOf es) := by
  induction es generalizing root with
  | nil => simp [Entries.assignAll, valuesOf]
  | cons x es ih =>
    obtain ⟨hx, hnodup⟩ := List.nodup_cons.mp hnodup
    have hrest (y : String × Value) (hy : y ∈ es) :
        Entries.node? (root ++ [(x.1, .value x.2)]) y.1 = none :=
      node?_append_eq_none (hnew y (List.mem_cons_of_mem x hy)) fun heq =>
        hx (heq ▸ List.mem_map_of_mem hy)
    rw [List.map_cons, ← List.nil_append [x.1], assignAll_cons,
      assign_of_node?_eq_none (hnew x List.mem_cons_self), Option.bind_some, ih hnodup hrest,
      List.append_assoc]
    rfl

theorem without_eq_self (h : Entries.node? root key = none) : root.without key = root := by
  rw [Entries.node?_eq_none_iff] at h
  refine List.filter_eq_self.mpr fun x hx => ?_
  rw [bne_iff_ne]
  rintro rfl
  exact h (List.mem_map_of_mem hx)

theorem addTable_of_node?_eq_none (h : Entries.node? root key = none)
    (hmade : Entries.assignAll [] assignments = some made) :
    Entries.addTable root [key] assignments = some (root ++ [(key, .table .explicit made)]) := by
  unfold Entries.addTable
  simp [Entries.modify, h, hmade, without_eq_self h]

theorem group_assignments (es : List (String × Value)) (ss : List Statement) :
    group ((es.map fun x => .assignment [x.1] x.2) ++ ss) =
      ((es.map fun x => ([x.1], x.2)) ++ (group ss).1, (group ss).2) := by
  induction es with
  | nil => rfl
  | cons x es ih => rw [List.map_cons, List.cons_append, group, ih]; rfl

theorem group_statementsOf (tables : List (String × List (String × Value))) :
    group (statementsOf tables) =
      ([], tables.map fun x => (.table [x.1], x.2.map fun y => ([y.1], y.2))) := by
  induction tables with
  | nil => rfl
  | cons x tables ih =>
    have hcons : statementsOf (x :: tables) =
        .header (.table [x.1]) :: ((x.2.map fun y => .assignment [y.1] y.2) ++
          statementsOf tables) :=
      List.flatMap_cons
    rw [hcons, group, group_assignments, ih, List.append_nil, List.map_cons]

/-- **Tables whose names differ**, with keys that differ in each, are built as they stand. -/
theorem addSections_eq (hnames : (tables.map Prod.fst).Nodup)
    (hkeys : ∀ x ∈ tables, (x.2.map Prod.fst).Nodup)
    (hnew : ∀ x ∈ tables, Entries.node? root x.1 = none) :
    (tables.map fun x => (Header.table [x.1], x.2.map fun y => ([y.1], y.2))).foldlM
        Entries.addSection root =
      some (root ++ tables.map fun x => (x.1, .table .explicit (valuesOf x.2))) := by
  induction tables generalizing root with
  | nil => simp
  | cons x tables ih =>
    obtain ⟨hx, hnames⟩ := List.nodup_cons.mp hnames
    have hmade : Entries.assignAll [] (x.2.map fun y => ([y.1], y.2)) = some (valuesOf x.2) :=
      assignAll_eq (hkeys x List.mem_cons_self) fun _ _ => rfl
    have hrest (y : String × List (String × Value)) (hy : y ∈ tables) :
        Entries.node? (root ++ [(x.1, .table .explicit (valuesOf x.2))]) y.1 = none :=
      node?_append_eq_none (hnew y (List.mem_cons_of_mem x hy)) fun heq =>
        hx (heq ▸ List.mem_map_of_mem hy)
    rw [List.map_cons, List.foldlM_cons, Entries.addSection,
      addTable_of_node?_eq_none (hnew x List.mem_cons_self) hmade]
    refine (ih hnames (fun y hy => hkeys y (List.mem_cons_of_mem x hy)) hrest).trans ?_
    rw [List.append_assoc]
    rfl

theorem completeEntries_eq_map (entries : Entries) :
    completeEntries entries = entries.map fun x => (x.1, x.2.complete) := by
  induction entries with
  | nil => rfl
  | cons x entries ih => rw [completeEntries, ih, List.map_cons]

theorem mem_completeEntries {node : Node} (h : Entries.node? root key = some node) :
    (key, node.complete) ∈ completeEntries root := by
  rw [completeEntries_eq_map]
  exact List.mem_map_of_mem (f := fun x => (x.1, x.2.complete)) (Entries.mem_of_node?_eq_some h)

theorem completeEntries_valuesOf (es : List (String × Value)) :
    completeEntries (valuesOf es) = es := by
  rw [completeEntries_eq_map, valuesOf, List.map_map]
  exact List.map_id'' (fun x => rfl) es

/-- **A document of tables** gives these tables. -/
theorem parse?_tables {text : String} {t : List Char} (hmark : Mark text.toList t)
    (hdocument : Document t (statementsOf tables)) (hnames : (tables.map Prod.fst).Nodup)
    (hkeys : ∀ x ∈ tables, (x.2.map Prod.fst).Nodup) :
    parse? text = some (tables.map fun x => (x.1, .table x.2)) := by
  have hbuilt : Entries.ofStatements (statementsOf tables) =
      some (tables.map fun x => (x.1, .table .explicit (valuesOf x.2))) := by
    unfold Entries.ofStatements
    rw [group_statementsOf]
    exact addSections_eq hnames hkeys fun _ _ => rfl
  unfold parse?
  rw [hmark.statements_eq hdocument]
  change (Entries.ofStatements (statementsOf tables)).bind _ = _
  rw [hbuilt, Option.bind_some, completeEntries_eq_map, List.map_map]
  refine congrArg some (List.map_congr_left fun x _ => ?_)
  rw [Function.comp_apply, Node.complete, completeEntries_valuesOf]

/-- **A text that goes on with a path after whole lines** is not sound, or the path leads somewhere
in what it gives. -/
theorem exists_leads {text : String} {t u : List Char} {ks : List String}
    {entries : List (String × Value)} (hmark : Mark text.toList t) (hlines : Lines t ss u)
    (hopens : Opens (below [] ss) u ks) (h : parse? text = some entries) :
    ∃ root, entries = completeEntries root ∧ Entries.Leads ks root := by
  obtain ⟨all, hall, h⟩ := Option.bind_eq_some_iff.mp h
  obtain ⟨root, hroot, heq⟩ := Option.bind_eq_some_iff.mp h
  obtain ⟨b, more, rfl, hb⟩ := hmark.exists_statement hlines hopens hall
  refine ⟨root, (Option.some.inj heq).symm, ?_⟩
  obtain ⟨rest, hrest⟩ := hb
  have hleads := Entries.leads_of_statement hroot
  rw [← hrest] at hleads
  exact hleads.of_append

end Tables

end NodeCoverage.Toml
