import CredentialWatch.Asn1.Header

/-!
# Reading tagged values

A reader takes one value off the front of the bytes that its surroundings leave it. The content of a
value is read on its own and must be used up. The fields of a sequence come in order; an optional
one is there if its tag is. A sequence that is itself incomplete or too long is told apart from one
with something wrong inside.
-/
namespace CredentialWatch.Asn1

/-- Where a value is wrong: where its fields end, or in its header or in one of its fields. -/
inductive Defect where
  | outline
  | detail
  deriving DecidableEq, Repr

abbrev Reader := StateT Bytes (Except Defect)

/-- A reader of what stands in a value; the environment tells whether the value's end is open. -/
abbrev Fields := ReaderT Bool Reader

/-- Whether bytes start with the mark that ends an open value. -/
def startsWithEnd : Bytes → Bool
  | 0 :: 0 :: _ => true
  | _ => false

namespace Reader

/-- Any defect of a part is a defect inside the whole. -/
def inner {α : Type} (part : Reader α) : Reader α :=
  fun bytes => (StateT.run part bytes).mapError fun _ => .detail

/-- The next `count` bytes. -/
def take (count : Nat) : Reader Bytes := do
  match (← get).split? count with
  | some (first, rest) =>
    set rest
    return first
  | none => throw .detail

def header : Reader Header := do
  match Header.read? (← get) with
  | some (header, rest) =>
    set rest
    return header
  | none => throw .detail

/-- The next header, which must have a tag. -/
def headerOf (tag : Tag) : Reader Header := do
  let header ← header
  if header.tag = tag then return header else throw .detail

/-- Read the content behind a header to its end. -/
def content {α : Type} (header : Header) (left : Defect) (fields : Fields α) : Reader α := do
  match header.length? with
  | some length =>
    let inside ← take length
    let (result, rest) ← (StateT.run (fields false) inside : Except Defect (α × Bytes))
    if rest.isEmpty then return result else throw left
  | none =>
    let result ← fields true
    let rest ← get
    if startsWithEnd rest then
      set (rest.drop 2)
      return result
    else throw left

end Reader

namespace Fields

/-- Whether the fields are at an end. An end mark has no place in a value that tells its length. -/
def atEnd : Fields Bool := do
  let bytes ← get
  if startsWithEnd bytes then
    if ← read then return true else throw .outline
  else return bytes.isEmpty

/-- A field that must be there. -/
def required {α : Type} (value : Reader α) : Fields α := do
  if ← atEnd then throw .outline else value.inner

/-- A field that is there if its tag is. -/
def optional {α : Type} (tag : Tag) (value : Reader α) : Fields (Option α) := do
  if ← atEnd then return none
  match Header.read? (← get) with
  | none => throw .detail
  | some (header, _) => if header.tag = tag then some <$> value.inner else return none

/-- The last field, which is there if anything is. -/
def last {α : Type} (value : Reader α) : Fields (Option α) := do
  if ← atEnd then return none else some <$> value.inner

/-- Values up to the end; each takes at least one byte of `fuel`. -/
def all {α : Type} (value : Reader α) : Nat → Fields (List α)
  | 0 => throw .detail
  | fuel + 1 => do
    if ← atEnd then return []
    let first ← value.inner
    let others ← all value fuel
    return first :: others

end Fields

namespace Reader

/-- A sequence of fields. -/
def sequence {α : Type} (fields : Fields α) : Reader α := do
  if (← get).isEmpty then throw .outline
  let header ← headerOf .sequence
  if header.constructed then content header .outline fields else throw .outline

/-- Values of one kind under one tag. -/
def list {α : Type} (tag : Tag) (value : Reader α) : Reader (List α) := do
  let header ← headerOf tag
  content header .detail (do Fields.all value ((← get).length + 1))

/-- A value under a further tag of its own. -/
def explicit {α : Type} (number : Nat) (value : Reader α) : Reader α := do
  let header ← headerOf (.context number)
  if header.constructed then content header .detail (value.inner : Reader α) else throw .detail

/-- Skip what is left of an open value, in which `due` end marks are still to come. -/
def skipToEnd : Nat → Nat → Reader Unit
  | 0, _ => throw .detail
  | fuel + 1, due => do
    let bytes ← get
    if startsWithEnd bytes then
      set (bytes.drop 2)
      if due ≤ 1 then return () else skipToEnd fuel (due - 1)
    else
      let header ← header
      match header.length? with
      | none => skipToEnd fuel (due + 1)
      | some length =>
        let _ ← take length
        skipToEnd fuel due

/-- The pieces of a string that is written in pieces, put together; `deeper` reads a piece that is
itself in pieces. -/
def pieces (deeper : Header → Reader Bytes) : Nat → Fields Bytes
  | 0 => throw .detail
  | fuel + 1 => do
    if ← Fields.atEnd then return []
    let header ← (header : Reader Header)
    let first ← (if header.constructed then deeper header
      else take (header.length?.getD 0) : Reader Bytes)
    let others ← pieces deeper fuel
    return first ++ others

/-- The content of a string behind a header that says it is in pieces, at most `depth` deep. -/
def gathered : Nat → Header → Reader Bytes
  | 0, _ => throw .detail
  | depth + 1, header =>
    content header .detail (do pieces (gathered depth) ((← get).length + 1))

/-- How deep the pieces of a string may be nested. -/
def pieceDepth : Nat := 6

/-- The content of a string behind its header. -/
def stringContent (header : Header) : Reader Bytes :=
  if header.constructed then gathered pieceDepth header else take (header.length?.getD 0)

/-- The content of a value that cannot be in pieces, behind its header. -/
def simpleContent (header : Header) : Reader Bytes :=
  if header.constructed then throw .detail else take (header.length?.getD 0)

/-- The content of a sequence, a set or a value with a tag from elsewhere, as it stands. -/
def wholeContent (header : Header) : Reader Bytes := do
  match header.length? with
  | some length => take length
  | none =>
    let inside ← get
    skipToEnd (inside.length + 1) 1
    return inside.take (inside.length - (← get).length - 2)

end Reader

end CredentialWatch.Asn1
