import FrameRpc.Text.Chars

/-!
Link-layer addresses. The text form is six fields joined by colons; a field is exactly
two characters: two hexadecimal digits in either case, or a plus sign and one digit (the
rule of reading an unsigned byte in base sixteen, which accepts a leading plus). Writing
gives two lowercase digits per octet.
-/

namespace FrameRpc

structure Mac where
  octets : List UInt8
  length_octets : octets.length = 6
  deriving DecidableEq

namespace Mac

def fieldValue? : List Char → Option UInt8
  | ['+', d] => (Hex.digitValue? d).map Nat.toUInt8
  | [h, l] => do
    let a ← Hex.digitValue? h
    let b ← Hex.digitValue? l
    pure (16 * a + b).toUInt8
  | _ => none

def fieldValues? : List String → Option (List UInt8)
  | [] => some []
  | f :: fs => do
    let v ← fieldValue? f.toList
    let vs ← fieldValues? fs
    pure (v :: vs)

theorem length_fieldValues? {fs : List String} {vs : List UInt8}
    (h : fieldValues? fs = some vs) : vs.length = fs.length := by
  induction fs generalizing vs with
  | nil => simp [fieldValues?] at h; simp [← h]
  | cons f fs ih =>
    simp only [fieldValues?, Option.bind_eq_bind, Option.bind_eq_some_iff,
      Option.pure_def, Option.some.injEq] at h
    obtain ⟨v, -, ws, hws, rfl⟩ := h
    simp [ih hws]

def fields (s : String) : List String := (s.toList.splitOn ':').map String.ofList

def parse? (s : String) : Option Mac :=
  if hlen : (fields s).length = 6 then
    match h : fieldValues? (fields s) with
    | some vs => some ⟨vs, by rw [length_fieldValues? h, hlen]⟩
    | none => none
  else none

def text (m : Mac) : String :=
  ":".intercalate (m.octets.map Hex.byte)

instance : ToString Mac := ⟨text⟩

def ofList? (bs : List UInt8) : Option Mac :=
  if h : bs.length = 6 then some ⟨bs, h⟩ else none


end Mac

end FrameRpc
