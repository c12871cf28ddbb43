import KarelBuild.Host.Standard
import KarelBuild.Shell.Utility.Removing

/-!
# Permissions and owners

Utilities that change who may do what with a file, and whom it belongs to. Each operand is handled on its own,
with everything below it if that is asked for.
-/

namespace KarelBuild.Shell.Utility

open ShellM

/-! ## Permissions -/

/-- Which changes are told of: none, those that change something, or all. -/
inductive Telling where
  | none
  | changes
  | all
  deriving DecidableEq, Repr

def tellingOf (g : Given) : Telling :=
  match g.last? "cv" with
  | some 'c' => .changes
  | some 'v' => .all
  | _ => .none

/-- Do something for an entry and for all that is below it, which comes first if it is `late`; symbolic links
are followed at the top only. -/
def forBelow (deep late : Bool) (handle : (isTop : Bool) → Octets → ShellM Bool) : (depth : Nat) →
    (isTop : Bool) → Octets → ShellM Bool
  | 0, _, _ => return false
  | n + 1, isTop, o => do
    if !deep then handle isTop o
    else
      let mut fine ← if late then pure true else handle isTop o
      let (t, dir) ← treeAndDir
      match (if isTop then t.stat dir (pathText o) else t.statLink dir (pathText o)) with
      | .ok (place, .dir) =>
        for (name, _) in t.children place do
          if !(← forBelow deep late handle n false (below o (Octets.ofText name))) then fine := false
      | _ => pure ()
      if late then
        if !(← handle isTop o) then fine := false
      return fine

def modeText (mode : Nat) : Octets := Mode.octalText 4 mode ++ " (".toList ++ Mode.letters mode ++ [')']

/-- The options of a program, and the arguments that look like options but are modes. -/
def splitModes (args : List Octets) : List Octets × List Octets :=
  let options := args.takeWhile (· != ['-', '-'])
  let isMode (a : Octets) : Bool := match a with
    | '-' :: c :: _ => "rwxXstugoa,+=01234567".toList.contains c
    | _ => false
  (options.filter (!isMode ·) ++ args.drop options.length, options.filter isMode)

/-- Where a mode given as an option changes less than it says, because of the mask. -/
def surprise? (isDir : Bool) (umask : Nat) (clauses : List Mode.Clause) (before : Nat) : Option (Nat × Nat) :=
  let made := Mode.applyAll isDir umask clauses before
  let naive := Mode.applyAll isDir 0 clauses before
  if made &&& (0o7777 ^^^ naive) != 0 then some (made, naive) else none

def chmod : Utility := fun _ args => do
  let (args, modes) := splitModes args
  let g ← given (forms [('R', "recursive"), ('c', "changes"), ('f', "silent"), ('f', "quiet"), ('v', "verbose"),
    ('\x02', "preserve-root"), ('\x03', "no-preserve-root")] [('\x01', "reference")]) args
  let reference := g.value? '\x01'
  let isOption := modes ≠ []
  let (mode, operands) : Octets × List Octets :=
    if reference.isSome then ([], g.operands)
    else if isOption then (Text.join [','] modes, g.operands)
    else (g.operands.headD [], g.operands.drop 1)
  if operands = [] then
    if mode = [] ∧ g.operands = [] ∨ reference.isSome then misuse 1 "missing operand".toList
    else misuse 1 ("missing operand after ".toList ++ quoted ((g.operands ++ modes).getLastD []))
  let clauses ← match reference with
    | some path => do
      match ← status? true path with
      | .ok f => pure [⟨'=', .bits, Mode.all, f.mode, Mode.all⟩]
      | .error e =>
        stop 1 ("failed to get attributes of ".toList ++ quoted path ++ ": ".toList ++ e.wording.toList)
    | none => do
      match Mode.ofText? mode with
      | some clauses => pure clauses
      | none => misuse 1 ("invalid mode: ".toList ++ quoted mode)
  let telling := tellingOf g
  let handle (isTop : Bool) (o : Octets) : ShellM Bool := do
    let refuse (what : Octets) : ShellM Bool := do
      if !g.has 'f' then grumble what
      if telling = .all then emitLine (quoted o ++ " could not be accessed".toList)
      return false
    match ← status? false o, ← status? true o with
    | .ok f, .ok target =>
      if f.kind = .link ∧ !isTop then
        if telling = .all then
          emitLine ("neither symbolic link ".toList ++ quoted o ++ " nor referent has been changed".toList)
        return true
      else
        let umask := (← shell).umask
        let isDir := target.kind = .dir
        let made := Mode.applyAll isDir umask clauses target.mode
        setMode o made
        if telling = .all ∨ (telling = .changes ∧ made ≠ target.mode) then
          if made = target.mode then
            emitLine ("mode of ".toList ++ quoted o ++ " retained as ".toList ++ modeText made)
          else
            emitLine ("mode of ".toList ++ quoted o ++ " changed from ".toList ++ modeText target.mode ++
              " to ".toList ++ modeText made)
        match if isOption then surprise? isDir umask clauses target.mode else none with
        | some (made, naive) =>
          grumble (named o ++ ": new permissions are ".toList ++ Mode.letters made ++ ", not ".toList ++
            Mode.letters naive)
          return false
        | none => return true
    | .ok _, .error .noEntry => refuse ("cannot operate on dangling symlink ".toList ++ quoted o)
    | _, .error e => refuse ("cannot access ".toList ++ quoted o ++ ": ".toList ++ e.wording.toList)
    | .error e, _ => refuse ("cannot access ".toList ++ quoted o ++ ": ".toList ++ e.wording.toList)
  forEach operands (forBelow (g.has 'R') false handle maxDepth true)

/-! ## Owners -/

/-- The name of an account or a group, or its number if it has none. -/
def nameIn (table : List (Text × Nat)) (n : Nat) : Octets :=
  ((table.find? (·.2 == n)).map fun (name, _) => Octets.ofText name).getD (Text.ofNat n)

def accountName (n : Nat) : Octets := nameIn Host.accountNumbers n

def groupName (n : Nat) : Octets := nameIn Host.groupNumbers n

/-- The number that a name, or a number, stands for. -/
def numberIn? (table : List (Text × Nat)) (name : Octets) : Option Nat :=
  match table.lookup (Octets.toText name) with
  | some n => some n
  | none =>
    let ds := if name.head? = some '+' then name.drop 1 else name
    if isNumber ds ∧ digitsValue ds < 0xffffffff then some (digitsValue ds) else none

/-- The groups of accounts whose group has another number. -/
def accountGroups : List (Nat × Nat) := [(4, 65534), (5, 60), (6, 12), (42, 65534)]

/-- Whom entries are given to. -/
structure Ownership where
  owner : Option Nat := none
  group : Option Nat := none
  ownerText : Octets := []
  groupText : Octets := []

/-- The owner and the group that an operand of `chown` names. -/
def ownershipOf (spec : Octets) : ShellM Ownership := do
  let (user, group) := Text.cut ':' spec
  let (user, group) : Octets × Option Octets :=
    if group.isSome then (user, group)
    else if (numberIn? Host.accountNumbers user).isSome then (user, none)
    else
      let (u, g) := Text.cut '.' spec
      if g.isSome ∧ (numberIn? Host.accountNumbers u).isSome then (u, g) else (user, none)
  let owner ← if user = [] then pure none else
    match numberIn? Host.accountNumbers user with
    | some n => pure (some n)
    | none => stop 1 ("invalid user: ".toList ++ quoted spec)
  match group with
  | none => return ⟨owner, none, user, []⟩
  | some [] =>
    match owner with
    | none => return ⟨none, none, [], []⟩
    | some n =>
      if isNumber user then stop 1 ("invalid spec: ".toList ++ quoted spec)
      else
        let own := ((accountGroups.lookup n).getD n)
        return ⟨owner, some own, user, groupName own⟩
  | some group =>
    match numberIn? Host.groupNumbers group with
    | some n => return ⟨owner, some n, user, group⟩
    | none => stop 1 ("invalid group: ".toList ++ quoted spec)

def ownerForms : List OptionForm :=
  forms [('R', "recursive"), ('c', "changes"), ('f', "silent"), ('f', "quiet"), ('v', "verbose"),
    ('h', "no-dereference"), ('\x04', "dereference"), ('H', ""), ('L', ""), ('P', ""),
    ('\x02', "preserve-root"), ('\x03', "no-preserve-root")] [('\x01', "reference"), ('\x05', "from")]

/-- An owner and a group with a colon between them, where they are meant. -/
def ownerWords (hasOwner hasGroup : Bool) (owner group : Octets) : Octets :=
  (if hasOwner then owner else []) ++ if hasGroup then ':' :: group else []

/-- Give entries to somebody; `what` is what is spoken of. -/
def giveAway (g : Given) (isGroup : Bool) (receiver : Ownership) (operands : List Octets) : ShellM Nat := do
  let telling := tellingOf g
  let origin ← match g.value? '\x05' with
    | some spec => ownershipOf spec
    | none => pure {}
  let handle (isTop : Bool) (o : Octets) : ShellM Bool := do
    let follows := !g.has 'h' && (isTop || !g.has 'R')
    match ← status? follows o with
    | .error e =>
      if !g.has 'f' then
        let isThere := (← status? false o).isOk
        grumble ((if isThere then "cannot dereference " else "cannot access ").toList ++ quoted o ++
          ": ".toList ++ e.wording.toList)
        if telling = .all then
          let words := ownerWords receiver.owner.isSome receiver.group.isSome receiver.ownerText receiver.groupText
          emitLine ((if isGroup then "failed to change group of " else "failed to change ownership of ").toList ++
            quoted o ++ " to ".toList ++ if isGroup then receiver.groupText else words)
      return false
    | .ok f =>
      let matched := origin.owner.all (· == f.owner) && origin.group.all (· == f.group)
      let owner := if matched then receiver.owner.getD f.owner else f.owner
      let group := if matched then receiver.group.getD f.group else f.group
      let place := (← (if follows then stat? o else statLink? o)).toOption.map (·.1)
      match place with
      | some place => modifyWorld fun w => w.modifyMetadata place fun m =>
          let mode := if f.kind = .dir ∨ f.kind = .link then m.mode else World.unprivileged m.mode
          { m with owner, group, mode }
      | none => pure ()
      let changed := matched && (owner != f.owner || group != f.group)
      if telling = .all ∨ (telling = .changes ∧ changed) then
        let what := if isGroup then "group of " else "ownership of "
        if changed then
          let before := if isGroup then groupName f.group
            else ownerWords receiver.owner.isSome receiver.group.isSome (accountName f.owner) (groupName f.group)
          let before := if !isGroup ∧ receiver.owner.isNone then ownerWords true true (accountName f.owner)
            (groupName f.group) else before
          let after := if isGroup then receiver.groupText
            else ownerWords receiver.owner.isSome receiver.group.isSome receiver.ownerText receiver.groupText
          emitLine ("changed ".toList ++ what.toList ++ quoted o ++ " from ".toList ++ before ++
            " to ".toList ++ after)
        else
          let now := if isGroup then (if receiver.group.isSome then groupName f.group else [])
            else ownerWords receiver.owner.isSome receiver.group.isSome (accountName f.owner) (groupName f.group)
          emitLine (what.toList ++ quoted o ++ " retained".toList ++
            if now = [] then [] else " as ".toList ++ now)
      return true
  forEach operands (forBelow (g.has 'R') true handle maxDepth true)

/-- Whom a reference file belongs to. -/
def ownershipLike (path : Octets) : ShellM Ownership := do
  match ← status? true path with
  | .ok f => return ⟨some f.owner, some f.group, accountName f.owner, groupName f.group⟩
  | .error e => stop 1 ("failed to get attributes of ".toList ++ quoted path ++ ": ".toList ++ e.wording.toList)

def changeOwner (isGroup : Bool) (args : List Octets) : ShellM Nat := do
  let g ← given ownerForms args
  let receiver (spec : Octets) : ShellM Ownership := do
    if !isGroup then ownershipOf spec
    else if spec = [] then return {}
    else
      match numberIn? Host.groupNumbers spec with
      | some n => return ⟨none, some n, [], spec⟩
      | none => stop 1 ("invalid group: ".toList ++ quoted spec)
  match g.value? '\x01', g.operands with
  | some _, [] => misuse 1 "missing operand".toList
  | none, [] => misuse 1 "missing operand".toList
  | none, [only] => misuse 1 ("missing operand after ".toList ++ quoted only)
  | some path, operands =>
    let all ← ownershipLike path
    giveAway g isGroup (if isGroup then { all with owner := none } else all) operands
  | none, spec :: operands => do giveAway g isGroup (← receiver spec) operands

def chown : Utility := fun _ args => changeOwner false args

def chgrp : Utility := fun _ args => changeOwner true args

end KarelBuild.Shell.Utility
