import FrameRpc.Proofs.Wire.MacText
set_option autoImplicit false

/-!
Readers over known bytes.

`Reads x bytes a after` says that the reader `x`, started at any offset of any text where
`bytes` stand, reads `a` and stops just past them, whatever follows so long as it satisfies
`after`. Readers built with `>>=` read the concatenation of what their parts read, so the
reading of a whole printed value is assembled from lemmas about the cursor's primitives:
skipping blanks, single bytes, fixed words. A text read by `readText` is its UTF-8 bytes,
`bytesOf`.
-/

namespace FrameRpc.Json

variable {α β : Type}

def bytesOf (s : String) : List UInt8 := s.toList.flatMap String.utf8EncodeChar

@[simp] theorem bytesOf_append (s t : String) : bytesOf (s ++ t) = bytesOf s ++ bytesOf t := by
  simp [bytesOf]

theorem toUTF8_data (s : String) : s.toUTF8.data.toList = bytesOf s := by
  rw [String.toUTF8_eq_toByteArray, ← String.utf8Encode_toList, List.utf8Encode,
    List.toList_data_toByteArray, bytesOf]

theorem fromUTF8_bytesOf (s : String) :
    String.fromUTF8? (ByteArray.mk (bytesOf s).toArray) = some s := by
  have same : ByteArray.mk (bytesOf s).toArray = s.toByteArray := by
    rw [← String.utf8Encode_toList, List.utf8Encode, ByteArray.ext_iff, List.data_toByteArray,
      bytesOf]
  rw [same, String.fromUTF8?, dif_pos s.isValidUTF8]
  rfl

/-- `x` reads the bytes `bytes` as `a`: from any offset of any text where they stand, followed
by bytes that satisfy `after`, it gives `a` and stops just past them. -/
def Reads (x : Read α) (bytes : List UInt8) (a : α) (after : List UInt8 → Prop) : Prop :=
  ∀ (src : Array UInt8) (i : Nat) (rest : List UInt8),
    src.toList.drop i = bytes ++ rest → after rest → x src i = .ok a (i + bytes.length)

theorem bind_ok {x : Read α} {f : α → Read β} {src : Array UInt8} {i j : Nat} {a : α}
    (h : x src i = .ok a j) : (x >>= f) src i = f a src j := by
  simp only [bind, ReaderT.bind, EStateM.bind, h]

theorem drop_past {src : Array UInt8} {i : Nat} {bytes rest : List UInt8}
    (here : src.toList.drop i = bytes ++ rest) : src.toList.drop (i + bytes.length) = rest := by
  rw [← List.drop_drop, here, List.drop_left]

theorem drop_append_drop {src : Array UInt8} {i : Nat} {b₁ b₂ rest : List UInt8}
    (h : src.toList.drop i = b₁ ++ b₂ ++ rest) : src.toList.drop (i + b₁.length) = b₂ ++ rest := by
  rw [← List.drop_drop, h, List.append_assoc, List.drop_left]

namespace Reads

variable {x : Read α} {bytes : List UInt8} {a : α} {after : List UInt8 → Prop}

theorem mono {after' : List UInt8 → Prop} (h : Reads x bytes a after)
    (weaker : ∀ r, after' r → after r) : Reads x bytes a after' :=
  fun src i rest here follows => h src i rest here (weaker rest follows)

theorem bind {f : α → Read β} {more : List UInt8} {b : β} {after' : List UInt8 → Prop}
    (first : Reads x bytes a after) (second : Reads (f a) more b after')
    (link : ∀ r, after' r → after (more ++ r)) : Reads (x >>= f) (bytes ++ more) b after' := by
  intro src i rest here follows
  have stop := first src i (more ++ rest) (by rw [here, List.append_assoc]) (link rest follows)
  have next := second src (i + bytes.length) rest (drop_append_drop (by rw [here]))
    follows
  rw [bind_ok stop, next, List.length_append, Nat.add_assoc]

theorem seq {f : α → Read β} {more : List UInt8} {b : β} {after' : List UInt8 → Prop}
    (first : Reads x bytes a fun _ => True) (second : Reads (f a) more b after') :
    Reads (x >>= f) (bytes ++ more) b after' :=
  first.bind second fun _ _ => trivial

theorem bind_nil {f : α → Read β} {b : β} (first : Reads x bytes a after)
    (second : Reads (f a) [] b after) : Reads (x >>= f) bytes b after := by
  simpa only [List.append_nil] using first.bind second (fun _ follows => follows)

theorem pure (a : α) : Reads (Pure.pure a : Read α) [] a after :=
  fun _ _ _ _ _ => rfl

theorem map (f : α → β) (h : Reads x bytes a after) : Reads (f <$> x) bytes (f a) after := by
  intro src i rest here follows
  rw [map_eq_pure_bind, bind_ok (h src i rest here follows)]
  rfl

end Reads

section cursor

theorem getElem?_of_drop {src : Array UInt8} {i : Nat} {bytes : List UInt8}
    (h : src.toList.drop i = bytes) : src[i]? = bytes.head? := by
  rw [← Array.getElem?_toList, ← List.head?_drop, h]

theorem peek_apply (src : Array UInt8) (i : Nat) : peek src i = .ok src[i]? i := rfl
theorem bump_apply (src : Array UInt8) (i : Nat) : bump src i = .ok () (i + 1) := rfl

theorem next_apply {src : Array UInt8} {i : Nat} {b : UInt8} {rest : List UInt8}
    (here : src.toList.drop i = b :: rest) : next src i = .ok (some b) (i + 1) := by
  have at_b : src[i]? = some b := by rw [getElem?_of_drop here]; rfl
  simp only [next, bind_ok (peek_apply src i), at_b, Option.isSome_some, ↓reduceIte]
  rfl

theorem next_reads {after : List UInt8 → Prop} (b : UInt8) : Reads next [b] (some b) after :=
  fun _ _ _ here _ => next_apply here

theorem scanWhile_stop {src : Array UInt8} {p : UInt8 → Bool} {i : Nat}
    (h : ∀ b, src[i]? = some b → p b = false) : scanWhile src p i = i := by
  rw [scanWhile]
  split
  · next hi => rw [if_neg (by simp [h src[i] (by simp [hi])])]
  · rfl

theorem scanWhile_skip {src : Array UInt8} {p : UInt8 → Bool} :
    ∀ {i : Nat} {ps rest : List UInt8}, src.toList.drop i = ps ++ rest → (∀ b ∈ ps, p b = true) →
      scanWhile src p i = scanWhile src p (i + ps.length)
  | _, [], _, _, _ => rfl
  | i, b :: ps, rest, here, all => by
    have at_b : src[i]? = some b := by rw [getElem?_of_drop here]; rfl
    obtain ⟨hi, hb⟩ := Array.getElem?_eq_some_iff.mp at_b
    have later : src.toList.drop (i + 1) = ps ++ rest := by
      rw [← List.drop_drop, here]; rfl
    rw [scanWhile, dif_pos hi, if_pos (hb ▸ all b (List.mem_cons_self ..)),
      scanWhile_skip later (fun c hc => all c (List.mem_cons_of_mem _ hc))]
    simp [Nat.add_assoc, Nat.add_comm 1]

theorem skipWhile_apply (p : UInt8 → Bool) (src : Array UInt8) (i : Nat) :
    skipWhile p src i = .ok () (scanWhile src p i) := rfl

def Blank (ws : List UInt8) : Prop := ∀ b ∈ ws, isBlank b = true

theorem skipBlanks_reads {ws : List UInt8} (blank : Blank ws) {c : Option UInt8}
    (stops : ∀ b, c = some b → isBlank b = false) :
    Reads skipBlanks ws c (fun r => r.head? = c) := by
  intro src i rest here first
  have past := drop_past here
  have scan : scanWhile src isBlank i = i + ws.length := by
    rw [scanWhile_skip here blank]
    exact scanWhile_stop fun b hb => stops b (by rw [← hb, getElem?_of_drop past, first])
  rw [skipBlanks, bind_ok (skipWhile_apply isBlank src i), scan, peek_apply,
    getElem?_of_drop past, first]

theorem valueStart_reads {ws : List UInt8} (blank : Blank ws) {b : UInt8} (hb : isBlank b = false) :
    Reads valueStart ws b (fun r => r.head? = some b) := by
  intro src i rest here first
  rw [valueStart, bind_ok (skipBlanks_reads blank (fun _ h => Option.some_inj.mp h ▸ hb) src i rest here first)]
  rfl

theorem ident_reads {after : List UInt8 → Prop} :
    ∀ es : List UInt8, Reads (ident es) es () after
  | [] => Reads.pure ()
  | e :: es => by
    rw [ident]
    refine Reads.seq (next_reads e) ?_
    simp only [beq_self_eq_true, ↓reduceIte]
    exact ident_reads es

theorem bump_reads {after : List UInt8 → Prop} (b : UInt8) : Reads bump [b] () after :=
  fun _ _ _ _ _ => rfl

theorem Reads.placed {x : Read α} {bytes : List UInt8} {a : α} {after : List UInt8 → Prop}
    (h : Reads x bytes a after) : Reads (placed x) bytes a after := by
  intro src i rest here follows
  simp only [Json.placed, h src i rest here follows]

theorem Reads.finishing {body : Read α} {close : Read Unit} {bytes more : List UInt8} {a : α}
    {after after' : List UInt8 → Prop} (first : Reads body bytes a after)
    (second : Reads close more () after') (link : ∀ r, after' r → after (more ++ r)) :
    Reads (finishing body close) (bytes ++ more) a after' := by
  intro src i rest here follows
  have stop := first src i (more ++ rest) (by rw [here, List.append_assoc]) (link rest follows)
  have next := second src (i + bytes.length) rest (drop_append_drop (by rw [here])) follows
  simp only [Json.finishing, stop, next, List.length_append, Nat.add_assoc]

theorem finish_at_end {src : Array UInt8} {j : Nat} (empty : src.toList.drop j = []) :
    finish src j = .ok () j := by
  have blank : Blank [] := fun _ h => nomatch h
  have last := skipBlanks_reads blank (c := none) (fun _ h => nomatch h) src j [] empty rfl
  simp only [finish, bind_ok last, Option.isSome_none, Bool.false_eq_true, ↓reduceIte]
  rfl

theorem readText_of_reads {x : Read α} {text : String} {a : α} {after : List UInt8 → Prop}
    (h : Reads x (bytesOf text) a after) (ends : after []) : readText x text = .ok a := by
  have whole : text.toUTF8.data.toList.drop 0 = bytesOf text ++ [] := by
    rw [List.drop_zero, List.append_nil, toUTF8_data]
  have empty : text.toUTF8.data.toList.drop (0 + (bytesOf text).length) = [] := by
    rw [Nat.zero_add, toUTF8_data, List.drop_length]
  simp only [readText, bind_ok (h _ 0 [] whole ends), bind_ok (finish_at_end empty)]
  rfl

end cursor

end FrameRpc.Json
