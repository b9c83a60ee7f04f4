namespace TemplateExport.Utf8

/-- What is wrong with bytes that are no UTF-8 text. `position` is the length of the longest
well-formed part at the start; `length` counts the bytes there that no text can hold, and is absent
if the bytes end inside a character that is well-formed so far. -/
structure Fault where
  position : Nat
  length : Option Nat
deriving DecidableEq, Repr

/-- The ranges of the bytes that must follow a first byte, or none if no character starts so. -/
def followers (b : UInt8) : Option (List (UInt8 × UInt8)) :=
  let any : UInt8 × UInt8 := (0x80, 0xBF)
  if b < 0x80 then some []
  else if b < 0xC2 then none
  else if b < 0xE0 then some [any]
  else if b = 0xE0 then some [(0xA0, 0xBF), any]
  else if b = 0xED then some [(0x80, 0x9F), any]
  else if b < 0xF0 then some [any, any]
  else if b = 0xF0 then some [(0x90, 0xBF), any, any]
  else if b < 0xF4 then some [any, any, any]
  else if b = 0xF4 then some [(0x80, 0x8F), any, any]
  else none

/-- What is left after the first `matched` bytes of a character, at `position`. -/
def follow (position matched : Nat) :
    List (UInt8 × UInt8) → List UInt8 → Except Fault (List UInt8)
  | [], rest => .ok rest
  | _ :: _, [] => .error ⟨position, none⟩
  | (low, high) :: ranges, b :: rest =>
    if low ≤ b ∧ b ≤ high then follow position (matched + 1) ranges rest
    else .error ⟨position, some matched⟩

theorem follow_length {position matched : Nat} {ranges : List (UInt8 × UInt8)}
    {bytes rest : List UInt8} (h : follow position matched ranges bytes = .ok rest) :
    rest.length ≤ bytes.length := by
  induction ranges generalizing matched bytes with
  | nil =>
    simp only [follow, Except.ok.injEq] at h
    exact h ▸ Nat.le_refl _
  | cons range ranges ih =>
    cases bytes with
    | nil => simp [follow] at h
    | cons b bytes =>
      unfold follow at h
      split at h
      · exact Nat.le_succ_of_le (ih h)
      · simp at h

/-- The first place, from `position` on, at which bytes are no UTF-8 text. -/
def faultFrom (position : Nat) (bytes : List UInt8) : Option Fault :=
  match bytes with
  | [] => none
  | b :: rest =>
    match followers b with
    | none => some ⟨position, some 1⟩
    | some ranges =>
      match h : follow position 1 ranges rest with
      | .error fault => some fault
      | .ok after => faultFrom (position + 1 + ranges.length) after
termination_by bytes.length
decreasing_by
  have := follow_length h
  simp only [List.length_cons]
  omega

def fault? (bytes : List UInt8) : Option Fault :=
  faultFrom 0 bytes

def decode (bytes : ByteArray) : Except Fault String :=
  match String.fromUTF8? bytes with
  | some text => .ok text
  | none => .error ((fault? bytes.toList).getD ⟨0, none⟩)

def Fault.message (fault : Fault) : String :=
  match fault.length with
  | some n => "invalid utf-8 sequence of " ++ toString n ++ " bytes from index " ++
      toString fault.position
  | none => "incomplete utf-8 byte sequence from index " ++ toString fault.position

end TemplateExport.Utf8
