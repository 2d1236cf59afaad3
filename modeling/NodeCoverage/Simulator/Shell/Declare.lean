import NodeCoverage.Simulator.Shell.Report

/-!
# Declarations

The commands that declare variables, list them, or take them away, and those for aliases.
-/

namespace NodeCoverage.Simulator.Shell

namespace State

/-! ## Variables -/

/-- The name and the value of an argument that may be an assignment. -/
def splitAssignment (a : String) : String × Option String :=
  let name := a.toList.takeWhile (· ≠ '=')
  match a.toList.drop name.length with
  | [] => (a, none)
  | _ :: value => (String.ofList name, some (String.ofList value))

/-- The lines of the variables that are `shown`, in the order of their names. -/
def listVariables (st : State) (opening : String) (shown : Binding → Bool) : String :=
  let entries := (st.bindings.filter fun entry => shown entry.2).mergeSort
    fun a b => a.1 ≤ b.1
  String.join <| entries.map fun (name, b) =>
    let value := (b.value.map fun value => "=" ++ quotedWord value).getD ""
    opening ++ name ++ value ++ "\n"

/-- Declares variables, each of which `mark` then changes. -/
def declare (st : State) (command : String) (mark : State → String → State)
    (arguments : List String) : State :=
  arguments.foldl
    (fun st a =>
      let (name, value) := splitAssignment a
      if !st.goesOn then st
      else if !isName name then st.refuse command s!"{name}: bad variable name"
      else
        match value with
        | none => mark st name
        | some value =>
          let st := st.assign name value
          if st.goesOn then mark st name else st)
    (st.done 0)

/-- Declares variables or lists those that are declared in this way. -/
def declareOrList (st : State) (command : String) (mark : State → String → State)
    (marked : Binding → Bool) (arguments : List String) : State :=
  st.withOptions command "p" arguments fun given =>
    if given.has 'p' || given.rest.isEmpty then
      st.emitText command (st.listVariables (command ++ " ") marked) 0
    else st.declare command mark given.rest

/-- Makes a variable constant. -/
def freeze (st : State) (name : String) : State :=
  let b := (st.bindings.lookup name).getD { value := none }
  st.bind name (some { b with constant := true })

/-- Begins a command that can have variables of its own. -/
def openScope (st : State) : State :=
  { st with shadowed := some [], shadowedSwitches := none }

/-- Ends a command that had variables of its own, which started in a state. -/
def closeScope (st before : State) : State :=
  let st := (st.shadowed.getD []).foldl (fun st (name, b) => st.bind name b) st
  { st with
    switches := st.shadowedSwitches.getD st.switches
    shadowed := before.shadowed
    shadowedSwitches := before.shadowedSwitches }

/-- Makes variables the function's own, and with a hyphen the switches. -/
def makeLocal (st : State) (arguments : List String) : State :=
  match st.shadowed with
  | none => st.fail "not in a function"
  | some before =>
    let st :=
      if arguments.contains "-" then
        { st with shadowedSwitches := st.shadowedSwitches <|> some st.switches }
      else st
    let arguments := arguments.filter (· ≠ "-")
    let names := arguments.map fun a => (splitAssignment a).1
    let now := names.map fun name => (name, st.bindings.lookup name)
    { st with shadowed := some (now ++ before) }.declare "local" (fun st _ => st) arguments

/-- Takes a variable away. -/
def dropVariable (st : State) (name : String) : State :=
  if !st.goesOn then st
  else if !isName name then st.refuse "unset" s!"{name}: bad variable name"
  else
    match st.bindings.lookup name with
    | none => st
    | some b =>
      if b.constant then st.refuse "unset" s!"{name}: is read only"
      else
        let st := st.bind name none
        if name = "OPTIND" then st.resetOptions ""
        else if name = "PATH" then { st with found := [] }
        else st

/-- Takes variables or functions away. -/
def unset (st : State) (arguments : List String) : State :=
  st.withOptions "unset" "vf" arguments fun given =>
    if (given.options.getLast?.map (·.1)) = some 'f' then
      { st.done 0 with functions := st.functions.filter fun f => !given.rest.contains f.1 }
    else given.rest.foldl dropVariable (st.done 0)

/-! ## Aliases -/

/-- The size of the table of aliases. -/
def aliasTableSize : Nat := 39

/-- The line of an alias. -/
def aliasLine (entry : String × String) : String :=
  entry.1 ++ "=" ++ quotedWord entry.2 ++ "\n"

/-- Sets an alias. -/
def setAlias (st : State) (name value : String) : State :=
  if (st.aliases.lookup name).isSome then
    { st with aliases := st.aliases.map fun e => if e.1 == name then (name, value) else e }
  else { st with aliases := st.aliases ++ [(name, value)] }

/-- Sets or shows aliases. -/
def changeAliases (st : State) (arguments : List String) : State :=
  if arguments.isEmpty then
    st.emitText "alias" (String.join ((tableOrder aliasTableSize st.aliases).map aliasLine)) 0
  else
    arguments.foldl
      (fun st a =>
        let cs := a.toList
        let name := cs.take 1 ++ (cs.drop 1).takeWhile (· ≠ '=')
        match cs.drop name.length with
        | _ :: value => st.setAlias (String.ofList name) (String.ofList value)
        | [] =>
          match st.aliases.lookup a with
          | some value => (st.print (aliasLine (a, value)))
          | none => (st.remark s!"alias: {a} not found").done 1)
      (st.done 0)

/-- Takes aliases away. -/
def dropAliases (st : State) (arguments : List String) : State :=
  st.withOptions "unalias" "a" arguments fun given =>
    if given.has 'a' then { st.done 0 with aliases := [] }
    else
      given.rest.foldl
        (fun st name =>
          if (st.aliases.lookup name).isSome then
            { st with aliases := st.aliases.filter fun e => e.1 != name }
          else (st.remark s!"unalias: {name} not found").done 1)
        (st.done 0)

end State

end NodeCoverage.Simulator.Shell
