import SaslClient.Directive.Basic
/-!
# The reader as a cursor

A payload read by an index into its octets. The index moves on octet by octet, and names and bare
values are cut out between two of its positions. Behind an opening quote the characters are read
one by one, and the index moves on by the octets that they take. One round of the loop reads one
element.
-/
namespace SaslClient.Cursor

open Scan (Fault isComma isEquals isQuote isSpace isSeparator)

/-- Reads on in a quoted value, at a position from its beginning: `value` has been read, and
`escaped` tells that a backslash takes the next character. -/
def unquoteFrom (value : String) (escaped : Bool) (pos : Nat) :
    List Char → Option (String × Nat)
  | [] => none
  | c :: rest =>
    let next := pos + c.utf8Size
    if escaped then unquoteFrom (value.push c) false next rest
    else if c = '\\' then unquoteFrom value true next rest
    else if c = '"' then some (value, pos + 1)
    else unquoteFrom (value.push c) false next rest

def unquote (s : String) : Option (String × Nat) :=
  unquoteFrom "" false 0 s.toList

structure Slice where
  start : Nat
  stop : Nat
deriving DecidableEq, Repr

def Slice.octets (payload : List UInt8) (slice : Slice) : List UInt8 :=
  (payload.drop slice.start).take (slice.stop - slice.start)

def Slice.text (payload : List UInt8) (slice : Slice) : String :=
  Utf8.text (slice.octets payload)

def skip (test : UInt8 → Bool) (payload : List UInt8) (pos : Nat) : Nat :=
  if h : pos < payload.length then
    if test payload[pos] then skip test payload (pos + 1) else pos
  else pos
termination_by payload.length - pos

structure Reading where
  stop : Nat
  slices : List Slice
  value : Except (Fault String) String

def quotedValue (payload : List UInt8) (name : String) (pos : Nat) : Reading :=
  let rest : Slice := ⟨pos, payload.length⟩
  match unquote (rest.text payload) with
  | none => ⟨pos, [rest], .error (.unterminatedQuote name)⟩
  | some (value, length) =>
    let stop := skip isSpace payload (pos + length)
    if payload[stop]?.any (!isComma ·) then ⟨stop, [rest], .error (.trailingData name)⟩
    else ⟨stop, [rest], .ok value⟩

def bareValue (payload : List UInt8) (pos : Nat) : Reading :=
  let stop := skip (!isComma ·) payload pos
  let slice : Slice := ⟨pos, stop⟩
  ⟨stop, [slice], .ok (slice.text payload)⟩

def value (payload : List UInt8) (name : String) (pos : Nat) : Reading :=
  if payload[pos]?.any isQuote then quotedValue payload name (pos + 1) else bareValue payload pos

inductive Ending
  | over
  | found (name value : String)
  | fault (fault : Fault String)
deriving DecidableEq, Repr

structure Round where
  start : Nat
  stop : Nat
  slices : List Slice
  ending : Ending
deriving DecidableEq, Repr

/-- What a round comes to that has read a value: an empty one is a fault, and the comma behind any
other one is passed over. -/
def Reading.close (payload : List UInt8) (start : Nat) (slice : Slice) (reading : Reading) :
    Round :=
  let slices := slice :: reading.slices
  match reading.value with
  | .error fault => ⟨start, reading.stop, slices, .fault fault⟩
  | .ok text =>
    let name := slice.text payload
    if text.isEmpty then ⟨start, reading.stop, slices, .fault (.emptyValue name)⟩
    else
      let stop := if reading.stop < payload.length then reading.stop + 1 else reading.stop
      ⟨start, stop, slices, .found name text⟩

def element (payload : List UInt8) (start nameStart : Nat) : Round :=
  let nameStop := skip (!isEquals ·) payload nameStart
  let slice : Slice := ⟨nameStart, nameStop⟩
  if nameStop = nameStart then ⟨start, nameStop, [], .fault .emptyName⟩
  else if nameStop = payload.length then
    ⟨start, nameStop, [slice], .fault (.missingEquals (slice.text payload))⟩
  else (value payload (slice.text payload) (nameStop + 1)).close payload start slice

/-- Passes over separators and reads an element, if there is one or none was found so far. -/
def round (payload : List UInt8) (found : Directives) (start : Nat) : Round :=
  let nameStart := skip isSeparator payload start
  if nameStart = payload.length ∧ found.isEmpty = false then ⟨start, nameStart, [], .over⟩
  else element payload start nameStart

theorem le_skip (test : UInt8 → Bool) (payload : List UInt8) (pos : Nat) :
    pos ≤ skip test payload pos := by
  fun_induction skip test payload pos with
  | case1 pos h htest ih => omega
  | case2 => exact Nat.le_refl _
  | case3 => exact Nat.le_refl _

theorem le_stop_of_quotedValue (payload : List UInt8) (name : String) (pos : Nat) :
    pos ≤ (quotedValue payload name pos).stop := by
  rw [quotedValue]
  split
  · exact Nat.le_refl _
  · next length _ =>
    have := le_skip isSpace payload (pos + length)
    dsimp only
    split <;> dsimp only <;> omega

theorem le_stop_of_value (payload : List UInt8) (name : String) (pos : Nat) :
    pos ≤ (value payload name pos).stop := by
  rw [value]
  split
  · exact Nat.le_of_succ_le (le_stop_of_quotedValue payload name (pos + 1))
  · exact le_skip _ payload pos

private theorem le_stop_of_close {payload : List UInt8} {start : Nat} {slice : Slice}
    (reading : Reading) : reading.stop ≤ (reading.close payload start slice).stop := by
  rw [Reading.close]
  split
  · exact Nat.le_refl _
  · dsimp only
    split
    · exact Nat.le_refl _
    · dsimp only
      split <;> omega

private theorem lt_stop_of_element {payload : List UInt8} {start nameStart : Nat}
    {name value : String} (h : (element payload start nameStart).ending = .found name value) :
    nameStart < (element payload start nameStart).stop := by
  have hname := le_skip (!isEquals ·) payload nameStart
  rw [element] at h ⊢
  split at h
  · cases h
  · next hne =>
    rw [if_neg hne]
    split at h
    · cases h
    · next hend =>
      rw [if_neg hend]
      refine Nat.lt_of_le_of_lt hname (Nat.lt_of_lt_of_le (Nat.lt_succ_self _) ?_)
      exact Nat.le_trans (le_stop_of_value payload _ _) (le_stop_of_close _)

theorem lt_stop_of_found {payload : List UInt8} {found : Directives} {start : Nat}
    {name value : String} (h : (round payload found start).ending = .found name value) :
    start < (round payload found start).stop := by
  have hlead := le_skip isSeparator payload start
  rw [round] at h ⊢
  split at h
  · cases h
  · next hmore =>
    rw [if_neg hmore]
    exact Nat.lt_of_le_of_lt hlead (lt_stop_of_element h)

/-- The rounds of the loop from a position, with what has been found so far, and the result. -/
def rounds (payload : List UInt8) (found : Directives) (start : Nat) :
    List Round × Except (Fault String) Directives :=
  match _h : (round payload found start).ending with
  | .over => ([round payload found start], .ok found)
  | .fault fault => ([round payload found start], .error fault)
  | .found name value =>
    if (round payload found start).stop < payload.length then
      let (later, result) :=
        rounds payload (found.insert name value) (round payload found start).stop
      (round payload found start :: later, result)
    else ([round payload found start], .ok (found.insert name value))
termination_by payload.length - start
decreasing_by
  have := lt_stop_of_found _h
  omega

def parse (payload : List UInt8) : Except DirectiveError Directives :=
  match Utf8.decode payload with
  | .error reason => .error (.invalidUtf8 reason)
  | .ok _ => (rounds payload ∅ 0).2.mapError .malformed

end SaslClient.Cursor
