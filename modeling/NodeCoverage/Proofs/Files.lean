import NodeCoverage.Config.Read
import NodeCoverage.Proofs.Toml.Tables

/-!
# Settings from files

A file has a table for the service and one for the proxy, either or none, in either order, and each
gives values for some of its keys in any order. Such a file gives the settings that it says, with
the usual ones for all that it leaves out. A file with any other key is refused.

Results:
* `Form.readEntries_perm`: the order of entries makes no difference to records whose fields do not
  disturb each other;
* `Form.name_of_leads`: a record has a field for every key that a path leads through;
* `ServiceEntries.readEntries_eq`, `ProxyEntries.readEntries_eq`: the two tables;
* **`Settings.files_are_read`**.
-/

namespace NodeCoverage

namespace Toml.Form

variable {R : Type} {form : Form R} {r : R} {es es' : List (String × Value)}

/-! ## Records -/

/-- The record with an entry that it has a field for. -/
def withEntry (form : Form R) (r : R) (x : String × Value) : R :=
  (form.readEntry r x).toOption.getD r

/-- An entry that a record takes, whatever the record has. -/
def Takes (form : Form R) (x : String × Value) : Prop :=
  ∀ r, form.readEntry r x = .ok (form.withEntry r x)

theorem foldlM_eq (h : ∀ x ∈ es, form.Takes x) (r : R) :
    es.foldlM form.readEntry r = .ok (es.foldl form.withEntry r) := by
  induction es generalizing r with
  | nil => rfl
  | cons x es ih =>
    rw [List.foldlM_cons, h x List.mem_cons_self r]
    exact ih (fun y hy => h y (List.mem_cons_of_mem x hy)) _

/-- **The order of entries** makes no difference where no entry disturbs another. -/
theorem readEntries_perm (hes : es.Perm es') (hnodup : (es'.map Prod.fst).Nodup)
    (htakes : ∀ x ∈ es', form.Takes x)
    (hcomm : ∀ x ∈ es', ∀ y ∈ es', x.1 ≠ y.1 → ∀ r,
      form.withEntry (form.withEntry r x) y = form.withEntry (form.withEntry r y) x) :
    form.readEntries es = .ok (es'.foldl form.withEntry form.blank) := by
  have hswap (x : String × Value) (hx : x ∈ es) (y : String × Value) (hy : y ∈ es) (r : R) :
      form.withEntry (form.withEntry r x) y = form.withEntry (form.withEntry r y) x := by
    have hx' := hes.mem_iff.mp hx
    have hy' := hes.mem_iff.mp hy
    by_cases hkey : x.1 = y.1
    · rw [List.inj_on_of_nodup_map hnodup hx' hy' hkey]
    · exact hcomm x hx' y hy' hkey r
  unfold readEntries
  rw [foldlM_eq fun x hx => htakes x (hes.mem_iff.mp hx)]
  exact congrArg _ (hes.foldl_eq' hswap _)

/-- A record that is read has a field for every entry, and the field takes its value. -/
theorem exists_field (h : form.readEntries es = .ok r) {x : String × Value} (hx : x ∈ es) :
    ∃ field ∈ form.fields, field.name = x.1 ∧ ∃ f, field.update x.2 = .ok f := by
  unfold readEntries at h
  generalize form.blank = given at h
  induction es generalizing given with
  | nil => cases hx
  | cons y es ih =>
    rw [List.foldlM_cons] at h
    cases hy : form.readEntry given y with
    | error m =>
      rw [hy] at h
      cases h
    | ok given' =>
      rw [hy] at h
      rcases List.mem_cons.mp hx with rfl | hx
      · unfold readEntry at hy
        split at hy
        · cases hy
        · next field hfield =>
          have hname : field.name = x.1 := by simpa using List.find?_some hfield
          refine ⟨field, List.mem_of_find?_eq_some hfield, hname, ?_⟩
          cases hf : field.update x.2 with
          | error m =>
            rw [hf] at hy
            cases hy
          | ok f => exact ⟨f, rfl⟩
      · exact ih hx given' h

/-- A record whose first field is no table is not read from tables. -/
theorem not_read_tables {field : Field R} {fields : List (Field R)}
    (hfields : form.fields = field :: fields) {es : List (String × Value)} {items : List Value}
    {m : Mismatch} (hfield : field.update (.table es) = .error m) :
    form.read (.list (.table es :: items)) = .error m := by
  unfold read
  simp only [hfields, readItems, hfield]

/-- **A path leads on** only through keys that the record has fields for. -/
theorem name_of_leads {field : Field R} {fields : List (Field R)}
    (hfields : form.fields = field :: fields)
    (hfield : ∀ es, ∃ m, field.update (.table es) = .error m) {node : Node} {key : String}
    {path : List String} (hleads : Entries.LeadsFrom (key :: path) node)
    (h : form.read node.complete = .ok r) : key ∈ form.fields.map (·.name) := by
  cases node with
  | value v => cases hleads
  | table origin inner =>
    obtain ⟨node, hnode, -⟩ := Entries.leads_cons_iff.mp hleads
    rw [Node.complete] at h
    obtain ⟨field, hmem, hname, -⟩ := exists_field h (mem_completeEntries hnode)
    exact List.mem_map.mpr ⟨field, hmem, hname⟩
  | tables elements =>
    obtain ⟨inner, hmem, -⟩ := hleads
    cases elements with
    | nil => cases hmem
    | cons first rest =>
      obtain ⟨m, hm⟩ := hfield (completeEntries first)
      rw [Node.complete, completeElements, not_read_tables hfields hm] at h
      cases h

end Toml.Form

/-! ## The two tables -/

/-- What a file says about the service: a value for each key, or nothing. -/
structure ServiceEntries where
  listenAddr : Option String
  workers : Option Nat
  primaryId : Option UInt64

/-- What a file says about the proxy. -/
structure ProxyEntries where
  command : Option (List String)
  listenAddr : Option String
  workingDir : Option String

/-- What a file says, about the service and about the proxy. -/
structure FileEntries where
  service : Option ServiceEntries
  proxy : Option ProxyEntries

open Toml

namespace ServiceEntries

variable (g : ServiceEntries)

/-- The keys that are there, with their values. -/
def listed : List (String × Value) :=
  (g.listenAddr.map fun a => ("listen-addr", .text a)).toList ++
    (g.workers.map fun n => ("workers", .integer n)).toList ++
    (g.primaryId.map fun n => ("primary-fuzzer-id", .integer n.toNat)).toList

/-- The settings that are given, with the usual ones for what is left out. -/
def settings : ServiceSettings :=
  let usual : ServiceSettings := {}
  { listenAddr := g.listenAddr.getD usual.listenAddr
    workers := g.workers.getD usual.workers
    primaryId := g.primaryId.getD usual.primaryId }

variable {g} in
theorem mem_listed {x : String × Value} (h : x ∈ g.listed) :
    (∃ a, x = ("listen-addr", .text a)) ∨ (∃ n : Nat, x = ("workers", .integer n)) ∨
      ∃ n : UInt64, x = ("primary-fuzzer-id", .integer n.toNat) := by
  simp only [listed, List.mem_append, Option.mem_toList, Option.map_eq_some_iff] at h
  rcases h with (⟨a, -, rfl⟩ | ⟨n, -, rfl⟩) | ⟨n, -, rfl⟩
  · exact .inl ⟨a, rfl⟩
  · exact .inr (.inl ⟨n, rfl⟩)
  · exact .inr (.inr ⟨n, rfl⟩)

theorem nodup_listed : (g.listed.map Prod.fst).Nodup := by
  obtain ⟨_ | _, _ | _, _ | _⟩ := g <;> simp [listed]

variable (s : ServiceSettings)

@[simp]
theorem blank_form : ServiceSettings.form.blank = {} :=
  rfl

@[simp]
theorem withEntry_listenAddr (a : String) :
    ServiceSettings.form.withEntry s ("listen-addr", .text a) = { s with listenAddr := a } :=
  rfl

@[simp]
theorem withEntry_workers (n : Nat) :
    ServiceSettings.form.withEntry s ("workers", .integer n) = { s with workers := n } :=
  rfl

@[simp]
theorem withEntry_primaryId (n : UInt64) :
    ServiceSettings.form.withEntry s ("primary-fuzzer-id", .integer n.toNat) =
      { s with primaryId := n } := by
  have hread : ServiceSettings.form.withEntry s ("primary-fuzzer-id", .integer n.toNat) =
      { s with primaryId := n.toNat.toUInt64 } := rfl
  rw [hread, Nat.toUInt64, UInt64.ofNat_toNat]

/-- **The table of the service** gives the settings that it says, in any order. -/
theorem readEntries_eq {es : List (String × Value)} (h : es.Perm g.listed) :
    ServiceSettings.form.readEntries es = .ok g.settings := by
  rw [Form.readEntries_perm h g.nodup_listed]
  · obtain ⟨_ | _, _ | _, _ | _⟩ := g <;> simp [listed, settings]
  · intro x hx r
    rcases mem_listed hx with ⟨a, rfl⟩ | ⟨n, rfl⟩ | ⟨n, rfl⟩ <;> rfl
  · intro x hx y hy hne r
    rcases mem_listed hx with ⟨a, rfl⟩ | ⟨n, rfl⟩ | ⟨n, rfl⟩ <;>
      rcases mem_listed hy with ⟨a', rfl⟩ | ⟨n', rfl⟩ | ⟨n', rfl⟩ <;>
      first | exact absurd rfl hne | rfl

end ServiceEntries

namespace ProxyEntries

variable (g : ProxyEntries)

/-- The keys that are there, with their values. -/
def listed : List (String × Value) :=
  (g.command.map fun c => ("command", .list (c.map .text))).toList ++
    (g.listenAddr.map fun a => ("listen-addr", .text a)).toList ++
    (g.workingDir.map fun d => ("working-dir", .text d)).toList

/-- The settings that are given, with the usual ones for what is left out. Without a directory the
proxy has none. -/
def settings : ProxySettings :=
  let usual : ProxySettings := {}
  { command := g.command.getD usual.command
    listenAddr := g.listenAddr.getD usual.listenAddr
    workingDir := g.workingDir }

variable {g} in
theorem mem_listed {x : String × Value} (h : x ∈ g.listed) :
    (∃ c : List String, x = ("command", .list (c.map .text))) ∨
      (∃ a, x = ("listen-addr", .text a)) ∨ ∃ d, x = ("working-dir", .text d) := by
  simp only [listed, List.mem_append, Option.mem_toList, Option.map_eq_some_iff] at h
  rcases h with (⟨c, -, rfl⟩ | ⟨a, -, rfl⟩) | ⟨d, -, rfl⟩
  · exact .inl ⟨c, rfl⟩
  · exact .inr (.inl ⟨a, rfl⟩)
  · exact .inr (.inr ⟨d, rfl⟩)

theorem nodup_listed : (g.listed.map Prod.fst).Nodup := by
  obtain ⟨_ | _, _ | _, _ | _⟩ := g <;> simp [listed]

variable (p : ProxySettings)

@[simp]
theorem blank_form : ProxySettings.form.blank = {} :=
  rfl

theorem readList_texts (c : List String) :
    readList (readText "a string") (.list (c.map .text)) = .ok c := by
  change (c.map .text).mapM (readText "a string") = .ok c
  induction c with
  | nil => rfl
  | cons w c ih =>
    rw [List.map_cons, List.mapM_cons, ih]
    rfl

theorem readEntry_command (c : List String) :
    ProxySettings.form.readEntry p ("command", .list (c.map .text)) =
      .ok { p with command := c } := by
  have hread : ProxySettings.form.readEntry p ("command", .list (c.map .text)) =
      ((readList (readText "a string") (.list (c.map .text))).map
        fun c (p : ProxySettings) => { p with command := c }).map (· p) := rfl
  rw [hread, readList_texts]
  rfl

@[simp]
theorem withEntry_command (c : List String) :
    ProxySettings.form.withEntry p ("command", .list (c.map .text)) = { p with command := c } := by
  rw [Form.withEntry, readEntry_command]
  rfl

@[simp]
theorem withEntry_listenAddr (a : String) :
    ProxySettings.form.withEntry p ("listen-addr", .text a) = { p with listenAddr := a } :=
  rfl

@[simp]
theorem withEntry_workingDir (d : String) :
    ProxySettings.form.withEntry p ("working-dir", .text d) = { p with workingDir := some d } :=
  rfl

/-- **The table of the proxy** gives the settings that it says, in any order. -/
theorem readEntries_eq {es : List (String × Value)} (h : es.Perm g.listed) :
    ProxySettings.form.readEntries es = .ok g.settings := by
  rw [Form.readEntries_perm h g.nodup_listed]
  · obtain ⟨_ | _, _ | _, _ | _⟩ := g <;> simp [listed, settings]
  · intro x hx r
    rcases mem_listed hx with ⟨c, rfl⟩ | ⟨a, rfl⟩ | ⟨d, rfl⟩
    · rw [withEntry_command, readEntry_command]
    · rfl
    · rfl
  · intro x hx y hy hne r
    rcases mem_listed hx with ⟨c, rfl⟩ | ⟨a, rfl⟩ | ⟨d, rfl⟩ <;>
      rcases mem_listed hy with ⟨c', rfl⟩ | ⟨a', rfl⟩ | ⟨d', rfl⟩ <;>
      first | exact absurd rfl hne | simp

end ProxyEntries

/-! ## Whole files -/

/-- The tables of a file that says something about a part of the settings, or none. -/
inductive Part {α : Type} (name : String) (listed : α → List (String × Value)) :
    Option α → List (String × List (String × Value)) → Prop
  | absent : Part name listed none []
  | present {g : α} {es : List (String × Value)} : es.Perm (listed g) →
      Part name listed (some g) [(name, es)]

namespace Part

variable {α : Type} {name : String} {listed : α → List (String × Value)} {g : Option α}
  {tables : List (String × List (String × Value))}

theorem name_eq (h : Part name listed g tables) {x : String × List (String × Value)}
    (hx : x ∈ tables) : x.1 = name := by
  cases h with
  | absent => cases hx
  | present _ => rw [List.mem_singleton.mp hx]

theorem nodup_names (h : Part name listed g tables) : (tables.map Prod.fst).Nodup := by
  cases h with
  | absent => exact List.nodup_nil
  | present _ => exact List.nodup_singleton _

theorem nodup_keys (h : Part name listed g tables)
    (hlisted : ∀ g, ((listed g).map Prod.fst).Nodup) {x : String × List (String × Value)}
    (hx : x ∈ tables) : (x.2.map Prod.fst).Nodup := by
  cases h with
  | absent => cases hx
  | @present g es hes =>
    obtain rfl := List.mem_singleton.mp hx
    exact (hes.map Prod.fst).nodup_iff.mpr (hlisted g)

end Part

/-- The tables as entries of the root table. -/
def entriesOf (tables : List (String × List (String × Value))) : List (String × Value) :=
  tables.map fun x => (x.1, .table x.2)

theorem readEntry_service (c : Settings) (es : List (String × Value)) :
    Settings.form.readEntry c ("service", .table es) =
      (ServiceSettings.form.readEntries es).map fun s => { c with service := s } := by
  have hread : Settings.form.readEntry c ("service", .table es) =
      ((ServiceSettings.form.readEntries es).map
        fun s (c : Settings) => { c with service := s }).map (· c) := rfl
  rw [hread]
  cases ServiceSettings.form.readEntries es <;> rfl

theorem readEntry_proxy (c : Settings) (es : List (String × Value)) :
    Settings.form.readEntry c ("proxy", .table es) =
      (ProxySettings.form.readEntries es).map fun p => { c with proxy := some p } := by
  have hread : Settings.form.readEntry c ("proxy", .table es) =
      ((ProxySettings.form.readEntries es).map
        fun p (c : Settings) => { c with proxy := some p }).map (· c) := rfl
  rw [hread]
  cases ProxySettings.form.readEntries es <;> rfl

theorem Part.read_service {g : Option ServiceEntries}
    {tables : List (String × List (String × Value))}
    (h : Part "service" ServiceEntries.listed g tables) (c : Settings) :
    (entriesOf tables).foldlM Settings.form.readEntry c =
      .ok { c with service := (g.map (·.settings)).getD c.service } := by
  cases h with
  | absent => rfl
  | present hes =>
    change (Settings.form.readEntry c ("service", .table _) >>= pure) = _
    rw [readEntry_service, ServiceEntries.readEntries_eq _ hes]
    rfl

theorem Part.read_proxy {g : Option ProxyEntries} {tables : List (String × List (String × Value))}
    (h : Part "proxy" ProxyEntries.listed g tables) (c : Settings) :
    (entriesOf tables).foldlM Settings.form.readEntry c =
      .ok { c with proxy := (g.map (·.settings)).or c.proxy } := by
  cases h with
  | absent => rfl
  | present hes =>
    change (Settings.form.readEntry c ("proxy", .table _) >>= pure) = _
    rw [readEntry_proxy, ProxyEntries.readEntries_eq _ hes]
    rfl

namespace FileEntries

variable {g : FileEntries} {tables : List (String × List (String × Value))}

/-- The settings that a file gives: the usual ones for the service without a table for it, and no
proxy without a table for one. -/
def settings (g : FileEntries) : Settings where
  service := (g.service.map (·.settings)).getD {}
  proxy := g.proxy.map (·.settings)

/-- The tables say what the file says, in either order and with their keys in any order. -/
def LaidOut (g : FileEntries) (tables : List (String × List (String × Value))) : Prop :=
  ∃ service proxy, Part "service" ServiceEntries.listed g.service service ∧
    Part "proxy" ProxyEntries.listed g.proxy proxy ∧
    (tables = service ++ proxy ∨ tables = proxy ++ service)

theorem LaidOut.nodup_names (h : g.LaidOut tables) : (tables.map Prod.fst).Nodup := by
  obtain ⟨service, proxy, hservice, hproxy, horder⟩ := h
  have hboth : ((service ++ proxy).map Prod.fst).Nodup := by
    rw [List.map_append, List.nodup_append]
    refine ⟨hservice.nodup_names, hproxy.nodup_names, fun a ha b hb heq => ?_⟩
    obtain ⟨x, hx, rfl⟩ := List.mem_map.mp ha
    obtain ⟨y, hy, rfl⟩ := List.mem_map.mp hb
    rw [hservice.name_eq hx, hproxy.name_eq hy] at heq
    exact absurd heq (by decide)
  rcases horder with rfl | rfl
  · exact hboth
  · exact (List.perm_append_comm.map Prod.fst).nodup_iff.mp hboth

theorem LaidOut.nodup_keys (h : g.LaidOut tables) :
    ∀ x ∈ tables, (x.2.map Prod.fst).Nodup := by
  obtain ⟨service, proxy, hservice, hproxy, horder⟩ := h
  intro x hx
  have hx' : x ∈ service ∨ x ∈ proxy := by
    rcases horder with rfl | rfl
    · exact List.mem_append.mp hx
    · exact (List.mem_append.mp hx).symm
  rcases hx' with hx | hx
  · exact hservice.nodup_keys ServiceEntries.nodup_listed hx
  · exact hproxy.nodup_keys ProxyEntries.nodup_listed hx

theorem settings_eq (g : FileEntries) :
    ({ service := (g.service.map (·.settings)).getD Settings.form.blank.service
       proxy := (g.proxy.map (·.settings)).or Settings.form.blank.proxy } : Settings) =
      g.settings := by
  obtain ⟨service, proxy⟩ := g
  cases proxy <;> rfl

/-- **The tables of a file** give its settings, in either order. -/
theorem LaidOut.readEntries_eq (h : g.LaidOut tables) :
    Settings.form.readEntries (entriesOf tables) = .ok g.settings := by
  obtain ⟨service, proxy, hservice, hproxy, rfl | rfl⟩ := h
  all_goals
    unfold Form.readEntries entriesOf
    rw [List.map_append, List.foldlM_append]
  · rw [← entriesOf, hservice.read_service]
    exact (hproxy.read_proxy _).trans (congrArg Except.ok g.settings_eq)
  · rw [← entriesOf, hproxy.read_proxy]
    exact (hservice.read_service _).trans (congrArg Except.ok g.settings_eq)

end FileEntries

/-! ## Other keys -/

/-- The keys that a table may have, if there may be such a table. -/
def keysOf : String → Option (List String)
  | "service" => some ["listen-addr", "workers", "primary-fuzzer-id"]
  | "proxy" => some ["command", "listen-addr", "working-dir"]
  | _ => none

/-- The path is one of the keys that are known, or goes on from one. -/
def IsKnown : List String → Prop
  | [] => True
  | table :: path => ∃ keys, keysOf table = some keys ∧ ∀ key ∈ path.head?, key ∈ keys

namespace Settings

variable {entries : List (String × Value)} {c : Settings}

/-- A document that gives settings has no entries but those of the two tables. -/
theorem read_of_mem (h : form.readEntries entries = .ok c) {x : String × Value} (hx : x ∈ entries) :
    x.1 = "service" ∧ (∃ s, ServiceSettings.form.read x.2 = .ok s) ∨
      x.1 = "proxy" ∧ ∃ p, ProxySettings.form.read x.2 = .ok p := by
  have hread {α β : Type} {y : Except Mismatch α} {f : α → β} {b : β} (h : y.map f = .ok b) :
      ∃ a, y = .ok a := by
    cases y with
    | error m => cases h
    | ok a => exact ⟨a, rfl⟩
  obtain ⟨field, hfield, hname, f, hf⟩ := Form.exists_field h hx
  rcases List.mem_cons.mp hfield with rfl | hfield
  · exact .inl ⟨hname.symm, hread hf⟩
  · obtain rfl := List.mem_singleton.mp hfield
    exact .inr ⟨hname.symm, hread hf⟩

/-- **Where settings are read**, every path that leads somewhere is known. -/
theorem isKnown_of_leads {root : Entries} {path : List String}
    (h : form.readEntries (completeEntries root) = .ok c) (hleads : Entries.Leads path root) :
    IsKnown path := by
  cases path with
  | nil => trivial
  | cons table path =>
    obtain ⟨node, hnode, hfrom⟩ := Entries.leads_cons_iff.mp hleads
    rcases read_of_mem h (mem_completeEntries hnode) with ⟨rfl, s, hs⟩ | ⟨rfl, p, hp⟩
    · refine ⟨_, rfl, fun key hkey => ?_⟩
      obtain ⟨rest, rfl⟩ := List.head?_eq_some_iff.mp hkey
      exact Form.name_of_leads rfl (fun _ => ⟨_, rfl⟩) hfrom hs
    · refine ⟨_, rfl, fun key hkey => ?_⟩
      obtain ⟨rest, rfl⟩ := List.head?_eq_some_iff.mp hkey
      exact Form.name_of_leads rfl (fun _ => ⟨_, rfl⟩) hfrom hp

/-- The same of a document however it is written: each table that it has is known, and each key. -/
theorem isKnown_of_mem (h : form.readEntries entries = .ok c) {x : String × Value}
    (hx : x ∈ entries) : IsKnown [x.1] ∧ ∀ es, x.2 = .table es → ∀ y ∈ es, IsKnown [x.1, y.1] := by
  obtain ⟨name, v⟩ := x
  rcases read_of_mem h hx with ⟨rfl, s, hs⟩ | ⟨rfl, p, hp⟩
  · refine ⟨⟨_, rfl, nofun⟩, fun es heq y hy => ⟨_, rfl, fun key hkey => ?_⟩⟩
    cases heq
    cases hkey
    obtain ⟨field, hmem, hname, -⟩ := Form.exists_field hs hy
    exact List.mem_map.mpr ⟨field, hmem, hname⟩
  · refine ⟨⟨_, rfl, nofun⟩, fun es heq y hy => ⟨_, rfl, fun key hkey => ?_⟩⟩
    cases heq
    cases hkey
    obtain ⟨field, hmem, hname, -⟩ := Form.exists_field hp hy
    exact List.mem_map.mpr ⟨field, hmem, hname⟩

theorem ofToml_eq_ok_iff {text : String} :
    ofToml text = .ok c ↔ ∃ entries, parse? text = some entries ∧
      form.readEntries entries = .ok c := by
  unfold ofToml
  cases parse? text with
  | none => simp
  | some entries => cases h : form.readEntries entries <;> simp [h, Except.mapError]

/-- **A file that says something** gives the settings that it says. -/
theorem ofToml_eq {g : FileEntries} {tables : List (String × List (String × Value))} {text : String}
    {t : List Char} (hlaid : g.LaidOut tables) (hmark : Mark text.toList t)
    (hdocument : Document t (statementsOf tables)) : ofToml text = .ok g.settings :=
  ofToml_eq_ok_iff.mpr ⟨_, parse?_tables hmark hdocument hlaid.nodup_names hlaid.nodup_keys,
    hlaid.readEntries_eq⟩

/-- **A file that goes on with another key** gives none, whatever comes after it. -/
theorem exists_ofToml_eq_error {text : String} {t u : List Char} {ss : List Statement}
    {path : List String} (hmark : Mark text.toList t) (hlines : Lines t ss u)
    (hopens : Opens (below [] ss) u path) (hunknown : ¬IsKnown path) :
    ∃ e, ofToml text = .error e := by
  cases hread : ofToml text with
  | error e => exact ⟨e, rfl⟩
  | ok c =>
    obtain ⟨entries, hparse, hread⟩ := ofToml_eq_ok_iff.mp hread
    obtain ⟨root, rfl, hleads⟩ := exists_leads hmark hlines hopens hparse
    exact absurd (isKnown_of_leads hread hleads) hunknown

/-- **Settings are read from files** as these say. A file may have a table for the service and one
for the proxy, in either order, each with values for some of its keys in any order: basic strings of
any characters however they are escaped, integers from zero up to the largest of 63 bits in any
notation, lists of such strings of any length, with blanks, comments and empty lines wherever they
may stand. It gives the values that are there and the usual ones for all that is not: no directory
without a key for it, the usual service without a table for it, and a proxy if and only if there is
a table for it, if need be an empty one. A file with any other key is refused, at the top, in either
table or in the header of another: as soon as lines are followed by a line that begins with such a
key, in whatever spelling, nothing that comes after it can mend that. Nor are there settings with
other keys in a file that is written in any other way. -/
theorem files_are_read :
    (∀ (g : FileEntries) tables text t, g.LaidOut tables → Mark (String.toList text) t →
      Document t (statementsOf tables) → ofToml text = .ok g.settings) ∧
    (∀ text t ss u path, Mark (String.toList text) t → Lines t ss u → Opens (below [] ss) u path →
      ¬IsKnown path → ∃ e, ofToml text = .error e) ∧
    ∀ text entries c, parse? text = some entries → ofToml text = .ok c → ∀ x ∈ entries,
      IsKnown [x.1] ∧ ∀ es, x.2 = .table es → ∀ y ∈ es, IsKnown [x.1, y.1] := by
  refine ⟨fun _ _ _ _ => ofToml_eq, fun _ _ _ _ _ => exists_ofToml_eq_error,
    fun text entries c hparse hread x hx => ?_⟩
  obtain ⟨entries', hparse', hread⟩ := ofToml_eq_ok_iff.mp hread
  cases hparse.symm.trans hparse'
  exact isKnown_of_mem hread hx

/-- Tables in the other order with a comment, an escape, a trailing comma and an underscore, and a
key with an underscore in place of the dash. -/
theorem files_are_read_reordered :
    ofToml "[proxy] # p\ncommand=[\"a\\u0062\",]\n\n[service]\nworkers = 1_6" =
      .ok { service := { workers := 16 }, proxy := some { command := ["ab"] } } ∧
    ∃ e, ofToml "[service]\nlisten_addr=\"a\"" = .error e := by
  have hheader : Line "[proxy] # p\ncommand=[\"a\\u0062\",]\n\n[service]\nworkers = 1_6".toList
      (some (.header (.table ["proxy"])))
      "# p\ncommand=[\"a\\u0062\",]\n\n[service]\nworkers = 1_6".toList :=
    .header .nil (.word (k := "proxy".toList) (List.cons_ne_nil _ _) rfl) (.cons rfl .nil)
  have hchars : Chars "a\\u0062\",]\n\n[service]\nworkers = 1_6".toList ['a', 'b']
      ",]\n\n[service]\nworkers = 1_6".toList :=
    .plain rfl (by decide) (by decide)
      (.four (.cons rfl (.cons rfl (.cons rfl (.cons rfl .nil)))) .close)
  have hcommand : Line "command=[\"a\\u0062\",]\n\n[service]\nworkers = 1_6".toList
      (some (.assignment ["command"] (.list [.text "ab"])))
      "\n\n[service]\nworkers = 1_6".toList :=
    .entry (.word (k := "command".toList) (List.cons_ne_nil _ _) rfl) .nil
      (.list (.next (.blanks .nil) hchars (.blanks .nil) (.close (.blanks .nil)))) .nil
  have hservice : Line "[service]\nworkers = 1_6".toList (some (.header (.table ["service"])))
      "\nworkers = 1_6".toList :=
    .header .nil (.word (k := "service".toList) (List.cons_ne_nil _ _) rfl) .nil
  have hkey : Key "workers = 1_6".toList "workers" " = 1_6".toList :=
    .bare (k := "workers".toList) (List.cons_ne_nil _ _) (List.all_eq_true.mp rfl)
  have hworkers : Line "workers = 1_6".toList (some (.assignment ["workers"] (.integer 16))) [] :=
    .entry (.one .nil hkey (.cons rfl .nil)) (.cons rfl .nil)
      (.integer (s := "1_6".toList)
        (.decimal (.intro (.group rfl (.one rfl)) (.inl (by decide)))) (by decide)) .nil
  have hcomment : Comment "# p\ncommand=[\"a\\u0062\",]\n\n[service]\nworkers = 1_6".toList
      "\ncommand=[\"a\\u0062\",]\n\n[service]\nworkers = 1_6".toList :=
    .present (.cons rfl (.cons rfl .nil))
  have hdocument : Document
      "[proxy] # p\ncommand=[\"a\\u0062\",]\n\n[service]\nworkers = 1_6".toList
      (statementsOf [("proxy", [("command", .list [.text "ab"])]),
        ("service", [("workers", .integer 16)])]) :=
    .intro (.cons hheader hcomment .feed (.cons hcommand .absent .feed
      (.cons (.nothing .nil) .absent .feed (.cons hservice .absent .feed .nil)))) hworkers .absent
  have hlines : Lines "[service]\nlisten_addr=\"a\"".toList [.header (.table ["service"])]
      "listen_addr=\"a\"".toList :=
    .cons (.header .nil (.word (k := "service".toList) (List.cons_ne_nil _ _) rfl) .nil) .absent
      .feed .nil
  have hopens : Opens ["service"] "listen_addr=\"a\"".toList ["service", "listen_addr"] :=
    .assignment (.word (k := "listen_addr".toList) (List.cons_ne_nil _ _) rfl) (endsKey_cons rfl)
  have hunknown : ¬IsKnown ["service", "listen_addr"] := by
    rintro ⟨keys, hkeys, hkey⟩
    cases hkeys
    exact absurd (hkey _ rfl) (by decide)
  let g : FileEntries := {
    service := some { listenAddr := none, workers := some 16, primaryId := none }
    proxy := some { command := some ["ab"], listenAddr := none, workingDir := none } }
  exact ⟨files_are_read.1 g _ _ _ ⟨_, _, .present (.refl _), .present (.refl _), .inr rfl⟩ .absent
      hdocument,
    files_are_read.2.1 _ _ _ _ _ .absent hlines hopens hunknown⟩
end Settings

end NodeCoverage
