import HostDns.Pattern.Escape

/-!
Classes of characters in brackets, and what can stand in them: characters, ranges, named sets, other
classes, and operators between these.
-/

namespace HostDns.Pattern

open Read

/-- The character that an atom in a class stands for. -/
def classChar (a : Atom) : Read Char := do
  match a with
  | .char c _ => if (← flags).ascii ∧ 0x80 ≤ c.toNat then refuse .notUnicode else return c
  | _ => refuse .invalidClassRange

/-- An atom of a class: any character, or an escape. -/
def readClassAtom : Read Atom := do
  match ← peek with
  | none => refuse .unclosedClass
  | some '\\' => readEscape
  | some c =>
    skip
    return .char c false

/-- The character behind the next one, where blanks and comments do not count if the flags say so. -/
def peekSecond : Read (Option Char) := do
  let r ← get
  let behind := r.rest.drop 1
  if !r.flags.spaced then return behind.head?
  let rec go : Bool → List Char → Option Char
    | _, [] => behind.head?
    | inComment, c :: rest =>
      if Text.isBlank c then go inComment rest
      else if !inComment ∧ c = '#' then go true rest
      else some c
  return go false behind

/-- An item of a class that is no bracket: a range, a character or a named set. -/
def readClassItem : Read CharSet := do
  let first ← readClassAtom
  skipBlanks
  match ← peek with
  | none => refuse .unclosedClass
  | some c =>
    let second ← peekSecond
    if c ≠ '-' ∨ second = some ']' ∨ second = some '-' then
      match first with
      | .set s => return s
      | a => return .single (← classChar a)
    else
      advance
      let last ← readClassAtom
      let low ← classChar first
      let high ← classChar last
      if high.toNat < low.toNat then refuse .invalidClassRange
      return .range low.toNat high.toNat

/-- A named class such as `[:alpha:]`, or nothing, and then nothing is read. -/
def readBracketName : Read (Option CharSet) := do
  let before ← get
  let fail : Read (Option CharSet) := do
    set before
    return none
  if !(← skipWord "[:") then fail
  else
    let negate ← skipWord "^"
    let name := (← get).rest.takeWhile (· ≠ ':')
    modify fun r => { r with rest := r.rest.drop name.length }
    if !(← skipWord ":]") then fail
    else match bracketNames.lookup (String.ofList name) with
      | none => fail
      | some s => some <$> (do negated negate (← folded s))

/-- How two sets of a class are put together. -/
inductive SetOperator where
  | inter
  | diff
  | symmDiff

/-- The sets of a class that is being read, with the nesting of each. -/
structure ClassItems where
  items : List CharSet
  depth : Nat

namespace ClassItems

/-- No item. -/
def none : ClassItems := ⟨[], 0⟩

/-- One more item. -/
def push (c : ClassItems) (s : CharSet) (depth : Nat) : ClassItems :=
  ⟨c.items ++ [s], Nat.max c.depth depth⟩

/-- The union of the items and its nesting. -/
def union (c : ClassItems) : CharSet × Nat :=
  (.unions c.items, if c.items.length ≤ 1 then c.depth else c.depth + 1)

end ClassItems

/-- What an operator makes of the set on its left and the set on its right. -/
def combine (left : Option (SetOperator × CharSet × Nat)) (right : CharSet × Nat) :
    Read (CharSet × Nat) := do
  match left with
  | none => return right
  | some (operator, s, depth) =>
    let s ← folded s
    let t ← folded right.1
    return (match operator with
      | .inter => .inter s t
      | .diff => .diff s t
      | .symmDiff => .symmDiff s t, Nat.max depth right.2 + 1)

/-- What opens a class: whether it is negated, and the hyphens or the closing bracket that stand for
themselves at its start. -/
def readClassOpening : Read (Bool × ClassItems) := do
  advance
  let negate := (← peek) = some '^'
  if negate then advance
  let hyphens ← takeRun (· = '-')
  let items := hyphens.foldl (fun (c : ClassItems) _ => c.push (.single '-') 0) .none
  if hyphens.isEmpty ∧ (← peek) = some ']' then
    advance
    return (negate, items.push (.single ']') 0)
  else return (negate, items)

/-- A class from its opening bracket, and its nesting. -/
def readClass : Nat → Read (CharSet × Nat)
  | 0 => refuse .unclosedClass
  | fuel + 1 => do
    let (negate, opening) ← readClassOpening
    let (s, depth) ← readItems fuel none opening
    return (← negated negate (← folded s), depth + 1)
where
  /-- The items of a class up to its closing bracket. `left` is what stands before the last operator. -/
  readItems : Nat → Option (SetOperator × CharSet × Nat) → ClassItems → Read (CharSet × Nat)
  | 0, _, _ => refuse .unclosedClass
  | fuel + 1, left, items => do
    skipBlanks
    let operate (operator : SetOperator) : Read (CharSet × Nat) := do
      modify fun r => { r with rest := r.rest.drop 2 }
      let (s, depth) ← combine left items.union
      readItems fuel (some (operator, s, depth)) .none
    match (← get).rest with
    | [] => refuse .unclosedClass
    | ']' :: _ => do
      skip
      combine left items.union
    | '&' :: '&' :: _ => operate .inter
    | '-' :: '-' :: _ => operate .diff
    | '~' :: '~' :: _ => operate .symmDiff
    | '[' :: _ => do
      match ← readBracketName with
      | some s => readItems fuel left (items.push s 0)
      | none =>
        let (s, depth) ← readClass fuel
        readItems fuel left (items.push s depth)
    | _ => do
      let s ← readClassItem
      readItems fuel left (items.push s 0)

end HostDns.Pattern
