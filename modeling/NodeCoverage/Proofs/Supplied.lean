import NodeCoverage.CommandLine.Arguments

/-!
# What a command line supplies

A command line that is accepted is a row of options with their values, in any of four spellings
each, and of the one flag that does not end the reading; two dashes may stand at its end. What is
supplied that way is gathered from left to right, and nothing is supplied twice.

Results:
* `Reading.ends_pending`, `Reading.ends_waiting`: a value is looked at late, but that makes no
  difference to what is accepted;
* `Reading.ends_of_spells`: reading from a place between two switches, by induction on what is
  spelled there;
* `Spells.hold`: accepted arguments hold what was supplied and nothing else;
* **`parse_eq_ok_iff`**: which command lines are accepted, and with which arguments.
-/

namespace NodeCoverage.CommandLine

/-! ## Spellings -/

/-- Something that a command line supplies. -/
inductive Supply where
  | setting (s : Setting) (value : String)
  | noProxy
  deriving DecidableEq, Repr

/-- An argument that is no switch: a dash alone, or one that does not start with a dash. -/
def IsPlain (argument : String) : Prop :=
  argument = "-" ∨ argument.toList.head? ≠ some '-'

/-- How one thing is supplied, in one argument or in two. -/
inductive SupplyText : List String → Supply → Prop
  | noProxy : SupplyText ["--no-proxy"] .noProxy
  /-- A long name with its value behind an equals sign. -/
  | longAttached {name : String} {s : Setting} (value : String) :
      (name, .setting s) ∈ longNames →
      SupplyText ["--" ++ name ++ "=" ++ value] (.setting s value)
  /-- A long name with its value in the next argument. -/
  | longApart {name : String} {s : Setting} {value : String} :
      (name, .setting s) ∈ longNames → IsPlain value →
      SupplyText ["--" ++ name, value] (.setting s value)
  /-- A letter with its value right behind it. -/
  | shortAttached {letter : Char} {s : Setting} {value : String} :
      (letter, .setting s) ∈ shortNames → value ≠ "" → value.toList.head? ≠ some '=' →
      SupplyText ["-" ++ String.singleton letter ++ value] (.setting s value)
  /-- A letter with its value behind an equals sign. -/
  | shortEquals {letter : Char} {s : Setting} (value : String) :
      (letter, .setting s) ∈ shortNames →
      SupplyText ["-" ++ String.singleton letter ++ ("=" ++ value)] (.setting s value)
  /-- A letter with its value in the next argument. -/
  | shortApart {letter : Char} {s : Setting} {value : String} :
      (letter, .setting s) ∈ shortNames → IsPlain value →
      SupplyText ["-" ++ String.singleton letter, value] (.setting s value)

/-- How a command line is spelled. Two dashes may stand at its end. -/
inductive Spells : List String → List Supply → Prop
  | nil : Spells [] []
  | escape : Spells ["--"] []
  | cons {text rest : List String} {x : Supply} {xs : List Supply} :
      SupplyText text x → Spells rest xs → Spells (text ++ rest) (x :: xs)

/-! ### Names -/

theorem lookup_longNames {name : String} {x : Switch} :
    longNames.lookup name = some x ↔ (name, x) ∈ longNames := by
  constructor
  · intro h
    obtain ⟨before, after, hnames, -⟩ := List.lookup_eq_some_iff.mp h
    rw [hnames]
    exact List.mem_append_right _ List.mem_cons_self
  · have hall : ∀ p ∈ longNames, longNames.lookup p.1 = some p.2 := by decide
    exact hall (name, x)

theorem lookup_shortNames {letter : Char} {x : Switch} :
    shortNames.lookup letter = some x ↔ (letter, x) ∈ shortNames := by
  constructor
  · intro h
    obtain ⟨before, after, hnames, -⟩ := List.lookup_eq_some_iff.mp h
    rw [hnames]
    exact List.mem_append_right _ List.mem_cons_self
  · have hall : ∀ p ∈ shortNames, shortNames.lookup p.1 = some p.2 := by decide
    exact hall (letter, x)

theorem noProxy_mem_longNames {name : String} :
    (name, .flag .noProxy) ∈ longNames ↔ name = "no-proxy" := by
  simp [longNames]

/-- A long name is not empty and has no equals sign in it. -/
theorem longName_sound {name : String} {x : Switch} (h : (name, x) ∈ longNames) :
    name.toList ≠ [] ∧ '=' ∉ name.toList := by
  have hall : ∀ p ∈ longNames, p.1.toList ≠ [] ∧ '=' ∉ p.1.toList := by decide
  exact hall _ h

theorem shortName_ne_dash {letter : Char} {x : Switch} (h : (letter, x) ∈ shortNames) :
    letter ≠ '-' := by
  have hall : ∀ p ∈ shortNames, p.1 ≠ '-' := by decide
  exact hall _ h

/-! ### Tokens -/

theorem splitEquals_append {cs : List Char} (value : List Char) (h : '=' ∉ cs) :
    splitEquals (cs ++ '=' :: value) = (String.ofList cs, some (String.ofList value)) := by
  have hall : ∀ c ∈ cs, decide (c ≠ '=') = true :=
    fun c hc => decide_eq_true fun heq => h (heq ▸ hc)
  unfold splitEquals
  rw [List.dropWhile_append_of_pos hall, List.takeWhile_append_of_pos hall]
  simp

theorem splitEquals_eq_self {cs : List Char} (h : '=' ∉ cs) :
    splitEquals cs = (String.ofList cs, none) := by
  have hall : ∀ c ∈ cs, decide (c ≠ '=') = true :=
    fun c hc => decide_eq_true fun heq => h (heq ▸ hc)
  have hdrop : cs.dropWhile (fun c => decide (c ≠ '=')) = [] := by
    rw [← List.append_nil cs, List.dropWhile_append_of_pos hall, List.dropWhile_nil]
  unfold splitEquals
  rw [hdrop]

/-- The two parts with an equals sign between them are the text again. -/
theorem splitEquals_spec {cs : List Char} {name : String} {value : Option String}
    (h : splitEquals cs = (name, value)) :
    match value with
    | some v => cs = name.toList ++ '=' :: v.toList
    | none => cs = name.toList := by
  unfold splitEquals at h
  split at h
  · next v hv =>
    cases h
    simp only [String.toList_ofList]
    rw [← hv, List.takeWhile_append_dropWhile]
  · cases h
    simp only [String.toList_ofList]

theorem token_escape {x : String} : Token.of x = .escape ↔ x = "--" := by
  constructor
  · intro h
    unfold Token.of at h
    split at h
    · next hx => exact String.toList_inj.mp hx
    all_goals cases h
  · rintro rfl
    rfl

theorem token_long {name : String} {x : Switch} (h : (name, x) ∈ longNames) :
    Token.of ("--" ++ name) = .long name none := by
  obtain ⟨hne, hequals⟩ := longName_sound h
  obtain ⟨c, cs, hname⟩ := List.exists_cons_of_ne_nil hne
  have hlist : ("--" ++ name).toList = '-' :: '-' :: c :: cs := by
    rw [String.toList_append, hname]
    rfl
  have hsplit := splitEquals_eq_self hequals
  rw [String.ofList_toList, hname] at hsplit
  unfold Token.of
  rw [hlist]
  simp only [hsplit]

theorem token_long_attached {name : String} {x : Switch} (h : (name, x) ∈ longNames)
    (value : String) : Token.of ("--" ++ name ++ "=" ++ value) = .long name (some value) := by
  obtain ⟨hne, hequals⟩ := longName_sound h
  obtain ⟨c, cs, hname⟩ := List.exists_cons_of_ne_nil hne
  have hlist : ("--" ++ name ++ "=" ++ value).toList =
      '-' :: '-' :: c :: (cs ++ '=' :: value.toList) := by
    rw [String.toList_append, String.toList_append, String.toList_append, hname]
    simp
  have hsplit := splitEquals_append value.toList hequals
  rw [String.ofList_toList, String.ofList_toList, hname] at hsplit
  unfold Token.of
  rw [List.cons_append] at hsplit
  rw [hlist]
  simp only [hsplit]

theorem token_short {letter : Char} {x : Switch} (h : (letter, x) ∈ shortNames)
    (behind : String) :
    Token.of ("-" ++ String.singleton letter ++ behind) = .short letter behind.toList := by
  have hlist : ("-" ++ String.singleton letter ++ behind).toList =
      '-' :: letter :: behind.toList := by
    rw [String.toList_append, String.toList_append, String.toList_singleton]
    rfl
  have hne := shortName_ne_dash h
  unfold Token.of
  rw [hlist]
  split <;> simp_all

theorem token_plain {x : String} : Token.of x = .plain ↔ IsPlain x := by
  unfold Token.of IsPlain
  rw [← String.toList_inj]
  rcases x.toList with _ | ⟨c, _ | ⟨d, cs⟩⟩
  · simp
  · simpa using Decidable.em (c = '-')
  · split <;> simp_all

theorem of_token_long {x name : String} (h : Token.of x = .long name none) :
    x = "--" ++ name := by
  unfold Token.of at h
  split at h
  case h_2 cs _ hx =>
    obtain ⟨hname, hvalue⟩ := Token.long.inj h
    have hcs := splitEquals_spec (Prod.ext hname hvalue)
    rw [← String.toList_inj, hx, String.toList_append, hcs]
    rfl
  all_goals cases h

theorem of_token_long_attached {x name value : String}
    (h : Token.of x = .long name (some value)) : x = "--" ++ name ++ "=" ++ value := by
  unfold Token.of at h
  split at h
  case h_2 cs _ hx =>
    obtain ⟨hname, hvalue⟩ := Token.long.inj h
    have hcs := splitEquals_spec (Prod.ext hname hvalue)
    rw [← String.toList_inj, hx, String.toList_append, String.toList_append,
      String.toList_append, hcs]
    simp
  all_goals cases h

theorem of_token_short {x : String} {letter : Char} {behind : List Char}
    (h : Token.of x = .short letter behind) :
    x = "-" ++ String.singleton letter ++ String.ofList behind := by
  unfold Token.of at h
  split at h
  case h_3 hx =>
    cases h
    rw [← String.toList_inj, hx]
    simp
  all_goals cases h

theorem attached_toList {value : String} (hne : value ≠ "")
    (hequals : value.toList.head? ≠ some '=') : attached value.toList = some value := by
  unfold attached
  split
  · next h => exact absurd (String.toList_eq_nil_iff.mp h) hne
  · next h => exact absurd (congrArg List.head? h) hequals
  · rw [String.ofList_toList]

theorem attached_equals {value : String} : attached ("=" ++ value).toList = some value := by
  simp [attached]

/-! ## Gathering -/

namespace Arguments

/-- Takes what is supplied: an option with its value, or the flag. -/
def accept (a : Arguments) : Supply → Except UsageError Arguments
  | .setting s value => a.give s (some value)
  | .noProxy =>
    if a.noProxy then .error .argumentConflict else .ok { a with noProxy := true }

/-- Takes everything that is supplied, from left to right. -/
def gather (a : Arguments) (xs : List Supply) : Except UsageError Arguments :=
  xs.foldlM accept a

theorem gather_cons_eq_ok {a b : Arguments} {x : Supply} {xs : List Supply} :
    a.gather (x :: xs) = .ok b ↔ ∃ a', a.accept x = .ok a' ∧ a'.gather xs = .ok b := by
  unfold gather
  rw [List.foldlM_cons]
  cases a.accept x with
  | error e => simp [bind, Except.bind]
  | ok a' => simp [bind, Except.bind]

/-- An option has been given with a value. The number of workers is what its text stands for. -/
def Gives (a : Arguments) : Setting → String → Prop
  | .configFile, value => a.configFile = some value
  | .listenAddr, value => a.listenAddr = some value
  | .workers, value => ∃ n, readCount? value = some n ∧ a.workers = some n
  | .proxyCommand, value => a.proxyCommand = some value
  | .proxyListenAddr, value => a.proxyListenAddr = some value

theorem Gives.has {a : Arguments} {s : Setting} {value : String} (h : a.Gives s value) :
    a.has s = true := by
  cases s with
  | workers =>
    obtain ⟨n, -, hn⟩ := h
    exact Option.isSome_iff_exists.mpr ⟨n, hn⟩
  | _ => exact Option.isSome_iff_exists.mpr ⟨value, h⟩

/-- **What giving an option its value does**: it was not given before, it has the value now, and
nothing else has changed. -/
theorem give_eq_ok {a b : Arguments} {s : Setting} {value : String}
    (h : a.give s (some value) = .ok b) :
    a.has s = false ∧ b.Gives s value ∧ b.noProxy = a.noProxy ∧
      ∀ t, t ≠ s → b.has t = a.has t ∧ ∀ v, a.Gives t v → b.Gives t v := by
  unfold give at h
  dsimp only at h
  split at h
  · cases h
  · next hhas =>
    refine ⟨Bool.eq_false_iff.mpr hhas, ?_⟩
    cases s with
    | configFile =>
      dsimp only at h
      split at h
      · cases h
      · cases h
        refine ⟨rfl, rfl, fun t ht => ?_⟩
        cases t <;> first | exact absurd rfl ht | exact ⟨rfl, fun _ hv => hv⟩
    | workers =>
      dsimp only at h
      split at h
      · next n hn =>
        cases h
        refine ⟨⟨n, hn, rfl⟩, rfl, fun t ht => ?_⟩
        cases t <;> first | exact absurd rfl ht | exact ⟨rfl, fun _ hv => hv⟩
      · cases h
    | _ =>
      cases h
      refine ⟨rfl, rfl, fun t ht => ?_⟩
      cases t <;> first | exact absurd rfl ht | exact ⟨rfl, fun _ hv => hv⟩

/-- Arguments hold what is supplied and nothing else. -/
structure Hold (a : Arguments) (xs : List Supply) : Prop where
  given : ∀ s value, .setting s value ∈ xs → a.Gives s value
  absent : ∀ s, (∀ value, .setting s value ∉ xs) → a.has s = false
  noProxy : a.noProxy = true ↔ .noProxy ∈ xs

theorem gather_spec {a b : Arguments} {xs : List Supply} (h : a.gather xs = .ok b) :
    (∀ s value, a.Gives s value ∨ .setting s value ∈ xs → b.Gives s value) ∧
      (∀ s, (∀ value, .setting s value ∉ xs) → b.has s = a.has s) ∧
      (b.noProxy = true ↔ a.noProxy = true ∨ .noProxy ∈ xs) := by
  induction xs generalizing a with
  | nil =>
    cases h
    exact ⟨fun _ _ h => h.resolve_right List.not_mem_nil, fun _ _ => rfl,
      ⟨.inl, fun h => h.resolve_right List.not_mem_nil⟩⟩
  | cons x xs ih =>
    obtain ⟨a', hx, hxs⟩ := gather_cons_eq_ok.mp h
    obtain ⟨hgiven, habsent, hflag⟩ := ih hxs
    cases x with
    | noProxy =>
      dsimp only [accept] at hx
      split at hx
      · cases hx
      · cases hx
        refine ⟨fun s value hs => hgiven s value (hs.imp ?_ ?_), fun s hs => ?_, ?_⟩
        · cases s <;> exact id
        · exact fun hmem => (List.mem_cons.mp hmem).resolve_left nofun
        · rw [habsent s fun value hmem => hs value (List.mem_cons_of_mem _ hmem)]
          cases s <;> rfl
        · simp [hflag]
    | setting t v =>
      obtain ⟨hhas, hnow, hsame, hother⟩ := give_eq_ok hx
      refine ⟨fun s value hs => hgiven s value ?_, fun s hs => ?_, ?_⟩
      · rcases hs with hbefore | hmem
        · by_cases hst : s = t
          · subst hst
            exact absurd (hhas.symm.trans hbefore.has) Bool.false_ne_true
          · exact .inl ((hother s hst).2 value hbefore)
        · rcases List.mem_cons.mp hmem with heq | hlater
          · cases heq
            exact .inl hnow
          · exact .inr hlater
      · rw [habsent s fun value hmem => hs value (List.mem_cons_of_mem _ hmem)]
        by_cases hst : s = t
        · subst hst
          exact absurd List.mem_cons_self (hs v)
        · exact (hother s hst).1
      · simp [hflag, hsame]

/-- **What is gathered** from nothing is held. -/
theorem hold_of_gather {a : Arguments} {xs : List Supply} (h : gather {} xs = .ok a) :
    a.Hold xs := by
  obtain ⟨hgiven, habsent, hflag⟩ := gather_spec h
  refine ⟨fun s value hmem => hgiven s value (.inr hmem), fun s hs => ?_, ?_⟩
  · rw [habsent s hs]
    cases s <;> rfl
  · simpa using hflag

end Arguments

/-! ## Reading -/

namespace Reading

variable {g a : Arguments} {s : Setting} {escaped : Bool} {arguments : List String}

/-- All arguments are taken from here, the last value is looked at, and `a` is what is given. -/
def Ends (p : Reading) (arguments : List String) (a : Arguments) : Prop :=
  ∃ q q', arguments.foldlM take p = .ok q ∧ q.settle = .ok q' ∧ q'.given = a

theorem ends_nil {p : Reading} : p.Ends [] a ↔ ∃ q, p.settle = .ok q ∧ q.given = a := by
  constructor
  · rintro ⟨_, q, ⟨⟩, hsettle, hgiven⟩
    exact ⟨q, hsettle, hgiven⟩
  · rintro ⟨q, hsettle, hgiven⟩
    exact ⟨p, q, rfl, hsettle, hgiven⟩

theorem ends_cons {p : Reading} {x : String} :
    p.Ends (x :: arguments) a ↔ ∃ q, p.take x = .ok q ∧ q.Ends arguments a := by
  unfold Ends
  rw [List.foldlM_cons]
  cases p.take x with
  | error e => simp [bind, Except.bind]
  | ok q => simp [bind, Except.bind]

theorem settle_none : settle ⟨g, none, escaped⟩ = .ok ⟨g, none, escaped⟩ :=
  rfl

theorem settle_some {value : Option String} :
    settle ⟨g, some (s, value), escaped⟩ =
      (g.give s value).map fun given => ⟨given, none, escaped⟩ := by
  unfold settle
  dsimp only
  cases g.give s value <;> rfl

theorem settle_waiting : settle ⟨g, some (s, none), escaped⟩ = .error .invalidValue :=
  rfl

/-! ### After two dashes -/

/-- After two dashes nothing more is accepted. -/
theorem ends_escaped : Ends ⟨g, none, true⟩ arguments a ↔ arguments = [] ∧ g = a := by
  cases arguments with
  | nil =>
    rw [ends_nil]
    simp [settle_none]
  | cons x rest =>
    rw [ends_cons]
    simp [take, takePlain]

/-- Two dashes are no value. -/
theorem not_ends_escaped_waiting : ¬Ends ⟨g, some (s, none), true⟩ arguments a := by
  cases arguments with
  | nil =>
    rw [ends_nil, settle_waiting]
    rintro ⟨q, hq, -⟩
    cases hq
  | cons x rest =>
    rw [ends_cons]
    rintro ⟨q, hq, -⟩
    cases hq

/-! ### Values that are looked at late -/

/-- Every switch looks at the pending value first. -/
theorem take_pending {x : String} {value : Option String} {q : Reading}
    (hescape : Token.of x ≠ .escape) (hplain : Token.of x ≠ .plain) :
    take ⟨g, some (s, value), false⟩ x = .ok q ↔
      ∃ g', g.give s value = .ok g' ∧ take ⟨g', none, false⟩ x = .ok q := by
  have hflag (f : Flag) : takeFlag ⟨g, some (s, value), false⟩ f = .ok q ↔
      ∃ g', g.give s value = .ok g' ∧ takeFlag ⟨g', none, false⟩ f = .ok q := by
    unfold takeFlag
    rw [settle_some]
    cases g.give s value <;> simp [Except.map, settle_none]
  have hsetting (t : Setting) (v : Option String) :
      takeSetting ⟨g, some (s, value), false⟩ t v = .ok q ↔
        ∃ g', g.give s value = .ok g' ∧ takeSetting ⟨g', none, false⟩ t v = .ok q := by
    unfold takeSetting
    rw [settle_some]
    cases g.give s value <;> simp [Except.map, settle_none]
  unfold take
  simp only [Bool.false_eq_true, if_false]
  cases htoken : Token.of x with
  | escape => exact absurd htoken hescape
  | plain => exact absurd htoken hplain
  | long name v =>
    dsimp only
    unfold takeLong
    split
    · simp
    · simp
    · exact hflag _
    · exact hsetting _ _
  | short letter behind =>
    dsimp only
    unfold takeShort
    split
    · simp
    · exact hflag _
    · exact hsetting _ _

/-- **A pending value** may just as well be looked at first. -/
theorem ends_pending {value : String} :
    Ends ⟨g, some (s, some value), escaped⟩ arguments a ↔
      ∃ g', g.give s (some value) = .ok g' ∧ Ends ⟨g', none, escaped⟩ arguments a := by
  induction arguments generalizing escaped with
  | nil =>
    rw [ends_nil, settle_some]
    cases g.give s (some value) with
    | error e => simp [Except.map]
    | ok g' => simp [Except.map, ends_nil, settle_none]
  | cons x rest ih =>
    cases escaped with
    | true => simp [ends_cons, take, takePlain]
    | false =>
      by_cases hescape : Token.of x = .escape
      · simp [ends_cons, take, hescape, ih]
      · by_cases hplain : Token.of x = .plain
        · simp [ends_cons, take, hplain, takePlain]
        · simp only [ends_cons, take_pending hescape hplain]
          constructor
          · rintro ⟨q, ⟨g', hg', hq⟩, hends⟩
            exact ⟨g', hg', q, hq, hends⟩
          · rintro ⟨g', hg', q, hq, hends⟩
            exact ⟨q, ⟨g', hg', hq⟩, hends⟩

/-- **A value that is waited for** is the next argument, and no switch. -/
theorem ends_waiting :
    Ends ⟨g, some (s, none), false⟩ arguments a ↔
      ∃ value rest g', arguments = value :: rest ∧ IsPlain value ∧
        g.give s (some value) = .ok g' ∧ Ends ⟨g', none, false⟩ rest a := by
  cases arguments with
  | nil =>
    rw [ends_nil, settle_waiting]
    simp
  | cons x rest =>
    rw [ends_cons]
    by_cases hescape : Token.of x = .escape
    · simp [take, hescape, not_ends_escaped_waiting, ← token_plain]
    · by_cases hplain : Token.of x = .plain
      · simp only [take, hplain, takePlain, ends_pending, ← token_plain, Bool.false_eq_true,
          if_false, Except.ok.injEq, exists_eq_left', List.cons.injEq]
        constructor
        · rintro ⟨g', hg', hends⟩
          exact ⟨x, rest, g', ⟨rfl, rfl⟩, hplain, hg', hends⟩
        · rintro ⟨_, _, g', ⟨rfl, rfl⟩, -, hg', hends⟩
          exact ⟨g', hg', hends⟩
      · simp [take_pending hescape hplain, Arguments.give, hplain, ← token_plain]

/-! ### One thing after another -/

theorem take_longSetting {p : Reading} {x name : String} {value : Option String}
    (hp : p.escaped = false) (hname : (name, .setting s) ∈ longNames)
    (h : Token.of x = .long name value) : p.take x = p.takeSetting s value := by
  unfold take takeLong
  rw [hp, h, if_neg Bool.false_ne_true]
  simp only [lookup_longNames.mpr hname]

theorem take_longFlag {p : Reading} {x name : String} {f : Flag}
    (hp : p.escaped = false) (hname : (name, .flag f) ∈ longNames)
    (h : Token.of x = .long name none) : p.take x = p.takeFlag f := by
  unfold take takeLong
  rw [hp, h, if_neg Bool.false_ne_true]
  simp only [lookup_longNames.mpr hname]

theorem take_shortSetting {p : Reading} {x : String} {letter : Char} {behind : List Char}
    (hp : p.escaped = false) (hletter : (letter, .setting s) ∈ shortNames)
    (h : Token.of x = .short letter behind) :
    p.take x = p.takeSetting s (attached behind) := by
  unfold take takeShort
  rw [hp, h, if_neg Bool.false_ne_true]
  simp only [lookup_shortNames.mpr hletter]

theorem takeFlag_eq_ok {f : Flag} {q : Reading} :
    takeFlag ⟨g, none, false⟩ f = .ok q ↔
      f = .noProxy ∧ ∃ g', g.accept .noProxy = .ok g' ∧ q = ⟨g', none, false⟩ := by
  unfold takeFlag Arguments.accept
  rw [settle_none]
  cases f with
  | noProxy =>
    dsimp only
    split <;> simp [eq_comm]
  | help => simp
  | version => simp

theorem takeSetting_eq_ok {value : String} {q : Reading} :
    takeSetting ⟨g, none, false⟩ s (some value) = .ok q ↔
      ∃ g', g.accept (.setting s value) = .ok g' ∧ q = ⟨g', none, false⟩ := by
  unfold takeSetting Arguments.accept
  rw [settle_none]
  dsimp only
  split
  · next e he => simp [he]
  · next g' hg' => simp [hg', eq_comm]

theorem ends_attached {x value : String}
    (h : take ⟨g, none, false⟩ x = takeSetting ⟨g, none, false⟩ s (some value)) :
    Ends ⟨g, none, false⟩ (x :: arguments) a ↔
      ∃ g', g.accept (.setting s value) = .ok g' ∧ Ends ⟨g', none, false⟩ arguments a := by
  rw [ends_cons, h]
  constructor
  · rintro ⟨q, hq, hends⟩
    obtain ⟨g', hg', rfl⟩ := takeSetting_eq_ok.mp hq
    exact ⟨g', hg', hends⟩
  · rintro ⟨g', hg', hends⟩
    exact ⟨⟨g', none, false⟩, takeSetting_eq_ok.mpr ⟨g', hg', rfl⟩, hends⟩

theorem ends_apart {x : String}
    (h : take ⟨g, none, false⟩ x = takeSetting ⟨g, none, false⟩ s none) :
    Ends ⟨g, none, false⟩ (x :: arguments) a ↔
      ∃ value rest g', arguments = value :: rest ∧ IsPlain value ∧
        g.accept (.setting s value) = .ok g' ∧ Ends ⟨g', none, false⟩ rest a := by
  have hwaiting : takeSetting ⟨g, none, false⟩ s none = .ok ⟨g, some (s, none), false⟩ := rfl
  rw [ends_cons, h, hwaiting]
  simp only [Except.ok.injEq, exists_eq_left']
  exact ends_waiting

theorem ends_apart_cons {s : Setting} {value y : String} (hplain : IsPlain value)
    (hy : take ⟨g, none, false⟩ y = takeSetting ⟨g, none, false⟩ s none) :
    Ends ⟨g, none, false⟩ (y :: value :: arguments) a ↔
      ∃ g', g.accept (.setting s value) = .ok g' ∧ Ends ⟨g', none, false⟩ arguments a := by
  rw [ends_apart hy]
  constructor
  · rintro ⟨_, _, g', ⟨⟩, -, hg', hends⟩
    exact ⟨g', hg', hends⟩
  · rintro ⟨g', hg', hends⟩
    exact ⟨value, arguments, g', rfl, hplain, hg', hends⟩

/-- **One thing** is taken as it is spelled. -/
theorem ends_supplyText {text : List String} {x : Supply} (h : SupplyText text x) :
    Ends ⟨g, none, false⟩ (text ++ arguments) a ↔
      ∃ g', g.accept x = .ok g' ∧ Ends ⟨g', none, false⟩ arguments a := by
  cases h with
  | noProxy =>
    have htoken : Token.of "--no-proxy" = .long "no-proxy" none := by decide
    rw [List.singleton_append, ends_cons,
      take_longFlag rfl (noProxy_mem_longNames.mpr rfl) htoken]
    constructor
    · rintro ⟨q, hq, hends⟩
      obtain ⟨-, g', hg', rfl⟩ := takeFlag_eq_ok.mp hq
      exact ⟨g', hg', hends⟩
    · rintro ⟨g', hg', hends⟩
      exact ⟨⟨g', none, false⟩, takeFlag_eq_ok.mpr ⟨rfl, g', hg', rfl⟩, hends⟩
  | longAttached value hname =>
    exact ends_attached (take_longSetting rfl hname (token_long_attached hname value))
  | longApart hname hplain =>
    exact ends_apart_cons hplain (take_longSetting rfl hname (token_long hname))
  | @shortAttached letter s value hletter hne hequals =>
    have htaken := take_shortSetting (p := ⟨g, none, false⟩) rfl hletter (token_short hletter value)
    rw [attached_toList hne hequals] at htaken
    exact ends_attached htaken
  | shortEquals value hletter =>
    have htaken := take_shortSetting (p := ⟨g, none, false⟩) rfl hletter
      (token_short hletter ("=" ++ value))
    rw [attached_equals] at htaken
    exact ends_attached htaken
  | shortApart hletter hplain =>
    have htoken := token_short hletter ""
    rw [String.append_empty] at htoken
    exact ends_apart_cons hplain (take_shortSetting rfl hletter htoken)

/-- What follows a name of several letters, if it is accepted. -/
theorem exists_supplyText_of_long {x name : String} {value : Option String}
    (htoken : Token.of x = .long name value) (h : Ends ⟨g, none, false⟩ (x :: arguments) a) :
    ∃ text y rest, SupplyText text y ∧ x :: arguments = text ++ rest ∧
      rest.length ≤ arguments.length := by
  obtain ⟨q, hq, -⟩ := ends_cons.mp h
  cases hname : longNames.lookup name with
  | none => simp [take, htoken, takeLong, hname] at hq
  | some switch =>
    rw [lookup_longNames] at hname
    match switch, value with
    | .flag _, some _ => simp [take, htoken, takeLong, lookup_longNames.mpr hname] at hq
    | .flag f, none =>
      rw [take_longFlag rfl hname htoken] at hq
      obtain ⟨rfl, -⟩ := takeFlag_eq_ok.mp hq
      obtain rfl := noProxy_mem_longNames.mp hname
      obtain rfl := of_token_long htoken
      exact ⟨_, _, arguments, .noProxy, rfl, Nat.le_refl _⟩
    | .setting s, some value =>
      obtain rfl := of_token_long_attached htoken
      exact ⟨_, _, arguments, .longAttached value hname, rfl, Nat.le_refl _⟩
    | .setting s, none =>
      obtain ⟨value, rest, -, rfl, hplain, -⟩ :=
        (ends_apart (take_longSetting rfl hname htoken)).mp h
      obtain rfl := of_token_long htoken
      exact ⟨_, _, rest, .longApart hname hplain, rfl, Nat.le_succ _⟩

/-- What follows a name of one letter, if it is accepted. -/
theorem exists_supplyText_of_short {x : String} {letter : Char} {behind : List Char}
    (htoken : Token.of x = .short letter behind) (h : Ends ⟨g, none, false⟩ (x :: arguments) a) :
    ∃ text y rest, SupplyText text y ∧ x :: arguments = text ++ rest ∧
      rest.length ≤ arguments.length := by
  obtain ⟨q, hq, -⟩ := ends_cons.mp h
  cases hletter : shortNames.lookup letter with
  | none => simp [take, htoken, takeShort, hletter] at hq
  | some switch =>
    rw [lookup_shortNames] at hletter
    cases switch with
    | flag f =>
      have htaken : take ⟨g, none, false⟩ x = takeFlag ⟨g, none, false⟩ f := by
        simp [take, htoken, takeShort, lookup_shortNames.mpr hletter]
      rw [htaken] at hq
      obtain ⟨rfl, -⟩ := takeFlag_eq_ok.mp hq
      simp [shortNames] at hletter
    | setting s =>
      obtain rfl := of_token_short htoken
      match behind with
      | [] =>
        obtain ⟨value, rest, -, rfl, hplain, -⟩ :=
          (ends_apart (take_shortSetting rfl hletter htoken)).mp h
        exact ⟨_, _, rest, .shortApart hletter hplain, by simp, Nat.le_succ _⟩
      | c :: cs =>
        by_cases hc : c = '='
        · subst hc
          refine ⟨_, _, arguments, .shortEquals (String.ofList cs) hletter, ?_, Nat.le_refl _⟩
          rw [← String.ofList_append]
          rfl
        · exact ⟨_, _, arguments, .shortAttached hletter (by simp) (by simpa using hc), rfl,
            Nat.le_refl _⟩

/-- **What can stand next**, if the rest is accepted: the two dashes at the end, or one thing as it
is spelled. -/
theorem exists_supplyText {x : String} (h : Ends ⟨g, none, false⟩ (x :: arguments) a) :
    x = "--" ∧ arguments = [] ∨
      ∃ text y rest, SupplyText text y ∧ x :: arguments = text ++ rest ∧
        rest.length ≤ arguments.length := by
  cases htoken : Token.of x with
  | escape =>
    obtain ⟨q, hq, hends⟩ := ends_cons.mp h
    have hq' : take ⟨g, none, false⟩ x = .ok ⟨g, none, true⟩ := by simp [take, htoken]
    cases hq'.symm.trans hq
    exact .inl ⟨token_escape.mp htoken, (ends_escaped.mp hends).1⟩
  | plain =>
    obtain ⟨q, hq, -⟩ := ends_cons.mp h
    simp [take, htoken, takePlain] at hq
  | long name value => exact .inr (exists_supplyText_of_long htoken h)
  | short letter behind => exact .inr (exists_supplyText_of_short htoken h)

/-- What is accepted spells something. -/
theorem exists_spells {g : Arguments} {arguments : List String}
    (h : Ends ⟨g, none, false⟩ arguments a) : ∃ xs, Spells arguments xs := by
  match arguments with
  | [] => exact ⟨[], .nil⟩
  | x :: arguments =>
    rcases exists_supplyText h with ⟨rfl, rfl⟩ | ⟨text, y, rest, htext, heq, hle⟩
    · exact ⟨[], .escape⟩
    · rw [heq] at h ⊢
      obtain ⟨g', -, hends⟩ := (ends_supplyText htext).mp h
      obtain ⟨xs, hxs⟩ := exists_spells hends
      exact ⟨y :: xs, .cons htext hxs⟩
termination_by arguments.length

/-- **Reading from a place between two switches** gathers what is spelled there. -/
theorem ends_of_spells {xs : List Supply} (h : Spells arguments xs) :
    Ends ⟨g, none, false⟩ arguments a ↔ g.gather xs = .ok a := by
  induction h generalizing g with
  | nil =>
    rw [ends_nil]
    simp [settle_none, Arguments.gather, pure, Except.pure]
  | escape =>
    have htake : take ⟨g, none, false⟩ "--" = .ok ⟨g, none, true⟩ := rfl
    rw [ends_cons, htake]
    simp [ends_escaped, Arguments.gather, pure, Except.pure]
  | cons htext _ ih =>
    rw [ends_supplyText htext, Arguments.gather_cons_eq_ok]
    exact exists_congr fun g' => and_congr_right fun _ => ih

end Reading

theorem parse_eq_ok_iff_ends {arguments : List String} {a : Arguments} :
    parse arguments = .ok a ↔ Reading.Ends {} arguments a ∧ a.consistent = true := by
  unfold parse Reading.Ends
  cases arguments.foldlM Reading.take {} with
  | error e => simp
  | ok p =>
    simp only [Except.ok.injEq, exists_and_left, exists_eq_left']
    cases p.settle with
    | error e => simp
    | ok q =>
      simp only [Except.ok.injEq, exists_eq_left']
      split
      · next hq =>
        rw [Except.ok.injEq]
        exact ⟨fun h => ⟨h, h ▸ hq⟩, And.left⟩
      · next hq =>
        refine ⟨nofun, ?_⟩
        rintro ⟨rfl, hconsistent⟩
        exact absurd hconsistent hq

/-- What an accepted command line spells is what its arguments hold. -/
theorem Spells.hold {arguments : List String} {xs : List Supply} {a : Arguments}
    (h : Spells arguments xs) (hparse : parse arguments = .ok a) : a.Hold xs :=
  Arguments.hold_of_gather ((Reading.ends_of_spells h).mp (parse_eq_ok_iff_ends.mp hparse).1)

/-- **The command lines that are accepted** are those that spell something, with nothing supplied
twice, no value that is wrong, and no option of the proxy next to the flag against it. -/
theorem parse_eq_ok_iff {arguments : List String} {a : Arguments} :
    parse arguments = .ok a ↔
      ∃ xs, Spells arguments xs ∧ Arguments.gather {} xs = .ok a ∧ a.consistent = true := by
  rw [parse_eq_ok_iff_ends]
  constructor
  · rintro ⟨hends, hconsistent⟩
    obtain ⟨xs, hxs⟩ := Reading.exists_spells hends
    exact ⟨xs, hxs, (Reading.ends_of_spells hxs).mp hends, hconsistent⟩
  · rintro ⟨xs, hxs, hgather, hconsistent⟩
    exact ⟨(Reading.ends_of_spells hxs).mpr hgather, hconsistent⟩

end NodeCoverage.CommandLine
