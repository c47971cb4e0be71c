import FrameRpc.Proofs.Json.Numbers
set_option autoImplicit false

/-!
Records read back from the objects that list their fields.

A record is read from an object member by member: the key, a colon, then the value, read by
the decoder of the field of that key, which updates the record. An object that names
distinct fields of the record, each once, with values their decoders read, is read as the
record these updates make from the starting one, whatever blanks stand between its tokens
(`readRecord_reads`). `memberBytes` describes the members with the blanks given: `gap`
before each key, `colonGap` after each colon.
-/

namespace FrameRpc.Json

def EndsValue (r : List UInt8) : Prop :=
  ∃ b rest, r = b :: rest ∧ (b = 0x2c ∨ b = 0x7d ∨ isBlank b = true)

theorem EndsValue.endsNumber {r : List UInt8} (h : EndsValue r) : EndsNumber r := by
  obtain ⟨b, rest, rfl, hb⟩ := h
  intro c hc
  cases Option.some_inj.mp hc
  rcases hb with rfl | rfl | blank
  · decide
  · decide
  · simp only [isBlank, Bool.or_eq_true, beq_iff_eq] at blank
    rcases blank with ((rfl | rfl) | rfl) | rfl <;> decide

section literals

variable {ws : List UInt8} {after : List UInt8 → Prop}

def boolText (b : Bool) : String := if b then "true" else "false"

theorem readBool_text (blank : Blank ws) (b : Bool) :
    Reads readBool (ws ++ bytesOf (boolText b)) b after := by
  apply Reads.placed
  cases b
  · refine (valueStart_reads blank (by decide : isBlank 0x66 = false)).bind ?_ (fun _ _ => rfl)
    have word : bytesOf (boolText false) = [0x66] ++ ([0x61, 0x6c, 0x73, 0x65] ++ []) := by decide
    rw [word]
    simp only [show ((0x66 : UInt8) == 0x74) = false from rfl, beq_self_eq_true, Bool.false_eq_true,
      ↓reduceIte]
    exact (bump_reads 0x66).seq ((ident_reads _).seq (Reads.pure false))
  · refine (valueStart_reads blank (by decide : isBlank 0x74 = false)).bind ?_ (fun _ _ => rfl)
    have word : bytesOf (boolText true) = [0x74] ++ ([0x72, 0x75, 0x65] ++ []) := by decide
    rw [word]
    simp only [beq_self_eq_true, ↓reduceIte]
    exact (bump_reads 0x74).seq ((ident_reads _).seq (Reads.pure true))

end literals

section tokens

variable {after : List UInt8 → Prop}

theorem blank_nil : Blank [] := fun _ h => nomatch h

theorem skipBlanks_at {b : UInt8} (hb : isBlank b = false) :
    Reads skipBlanks [] (some b) (fun r => r.head? = some b) :=
  skipBlanks_reads blank_nil fun _ h => Option.some_inj.mp h ▸ hb

theorem colon_reads : Reads colon [0x3a] () after := by
  rw [colon]
  refine (skipBlanks_at (by decide)).bind ?_ (fun _ _ => rfl)
  simp only [beq_self_eq_true, ↓reduceIte]
  exact bump_reads 0x3a

theorem closeObject_reads : Reads closeObject [0x7d] () after := by
  rw [closeObject]
  refine (skipBlanks_at (by decide)).bind ?_ (fun _ _ => rfl)
  simp only [beq_self_eq_true, ↓reduceIte]
  exact bump_reads 0x7d

theorem nextKey_close {last : List UInt8} (hlast : Blank last) (first : Bool) :
    Reads (nextKey first) last none (fun r => r.head? = some 0x7d) := by
  rw [nextKey]
  refine Reads.bind_nil (skipBlanks_reads hlast fun _ h => Option.some_inj.mp h ▸ rfl) ?_
  simp only [beq_self_eq_true, ↓reduceIte]
  exact Reads.pure none

theorem nextKey_reads {gap : List UInt8} (hgap : Blank gap) (first : Bool) (k : String) :
    Reads (nextKey first) ((if first then [] else [0x2c]) ++ gap ++ bytesOf (quote k)) (some k) after := by
  have key : Reads (bump >>= fun _ => some <$> strBody) (bytesOf (quote k)) (some k) after := by
    rw [bytesOf_quote]
    exact (bump_reads 0x22).seq ((strBody_reads k).map some)
  rw [nextKey]
  cases first
  · -- a comma, then the key after blanks
    rw [if_neg Bool.false_ne_true, List.append_assoc]
    refine (skipBlanks_at (by decide)).bind ?_ (fun _ _ => rfl)
    simp only [bne_self_eq_false]
    refine (bump_reads 0x2c).seq ?_
    refine (skipBlanks_reads hgap (c := some 0x22) fun _ h => Option.some_inj.mp h ▸ rfl).bind ?_
      (fun _ _ => by rw [bytesOf_quote]; rfl)
    simp only [↓reduceIte, pure_bind, beq_self_eq_true]
    exact key
  · rw [if_pos rfl, List.nil_append]
    refine (skipBlanks_reads hgap (c := some 0x22) fun _ h => Option.some_inj.mp h ▸ rfl).bind ?_
      (fun _ _ => by rw [bytesOf_quote]; rfl)
    simp only [↓reduceIte, pure_bind, beq_self_eq_true]
    exact key

end tokens

section members

variable {σ : Type}

/-- A member of an object as printed: the field it names, the bytes of its value after the
colon, and what reading them does to the record. -/
structure Member (σ : Type) where
  field : Field σ
  value : List UInt8
  update : σ → σ

/-- The bytes of an object's members, given by key and value bytes, after its opening brace:
each member after `gap`, a later one after a comma too, then its key, a colon, `colonGap`
and its value. -/
def memberBytes (gap colonGap : List UInt8) : Bool → List (String × List UInt8) → List UInt8
  | _, [] => []
  | first, (k, v) :: ms =>
    (if first then [] else [0x2c]) ++ gap ++ bytesOf (quote k) ++
      ([0x3a] ++ (colonGap ++ v ++ memberBytes gap colonGap false ms))

def Member.printed (m : Member σ) : String × List UInt8 := (m.field.key, m.value)

def Member.applyAll (ms : List (Member σ)) (acc : σ) : σ := ms.foldl (fun a m => m.update a) acc

/-- Each member's value, after `colonGap`, is read by its field's decoder as its update, from
any record. -/
def Member.ReadsAfter (colonGap : List UInt8) (m : Member σ) : Prop :=
  ∀ acc, Reads (m.field.decoder acc).read (colonGap ++ m.value) (m.update acc) EndsValue

theorem endsValue_memberBytes {gap colonGap last : List UInt8} (hlast : Blank last)
    (ms : List (String × List UInt8)) {r : List UInt8} (close : r.head? = some 0x7d) :
    EndsValue (memberBytes gap colonGap false ms ++ (last ++ r)) := by
  cases ms with
  | cons m ms => exact ⟨0x2c, _, rfl, .inl rfl⟩
  | nil =>
    cases last with
    | cons b last => exact ⟨b, _, rfl, .inr (.inr (hlast b (List.mem_cons_self ..)))⟩
    | nil =>
      obtain ⟨rest, rfl⟩ : ∃ rest, r = 0x7d :: rest := by
        cases r with
        | nil => cases close
        | cons b rest => exact ⟨rest, by rw [Option.some_inj.mp close]⟩
      exact ⟨0x7d, rest, rfl, .inr (.inl rfl)⟩

theorem not_contains_of_not_mem {seen : List String} {k : String} (h : k ∉ seen) :
    seen.contains k = false :=
  Bool.eq_false_iff.mpr fun found => h (List.contains_iff_mem.mp found)

theorem members_reads (fields : List (Field σ)) {gap colonGap last : List UInt8} (hgap : Blank gap)
    (hlast : Blank last) :
    ∀ (ms : List (Member σ)) (fuel : Nat) (seen : List String) (first : Bool) (acc : σ),
      (ms.map (·.field.key)).Nodup → (∀ m ∈ ms, m.field.key ∉ seen) →
      (∀ m ∈ ms, fields.find? (·.key == m.field.key) = some m.field) →
      (∀ m ∈ ms, m.ReadsAfter colonGap) → ms.length < fuel →
      Reads (members fields fuel seen first acc) (memberBytes gap colonGap first (ms.map (·.printed)) ++ last)
        (Member.applyAll ms acc) (fun r => r.head? = some 0x7d)
  | [], fuel + 1, seen, first, acc, _, _, _, _, _ => by
    rw [members]
    exact Reads.bind_nil (nextKey_close hlast first) (Reads.pure acc)
  | m :: ms, fuel + 1, seen, first, acc, distinct, unseen, found, values, enough => by
    obtain ⟨fresh, distinct⟩ := List.nodup_cons.mp distinct
    have later_unseen : ∀ m' ∈ ms, m'.field.key ∉ m.field.key :: seen := by
      intro m' hm' mem
      rcases List.mem_cons.mp mem with same | old
      · have named := List.mem_map_of_mem (f := fun x : Member σ => x.field.key) hm'
        rw [same] at named
        exact fresh named
      · exact unseen m' (List.mem_cons_of_mem _ hm') old
    have rest := members_reads fields hgap hlast ms fuel (m.field.key :: seen) false
      (m.update acc) distinct later_unseen (fun m' hm' => found m' (List.mem_cons_of_mem _ hm'))
      (fun m' hm' => values m' (List.mem_cons_of_mem _ hm')) (by simp at enough; omega)
    rw [members, List.map_cons, memberBytes, List.append_assoc]
    refine (nextKey_reads hgap first m.field.key).seq ?_
    simp only [found m (List.mem_cons_self ..),
      not_contains_of_not_mem (unseen m (List.mem_cons_self ..)), Bool.false_eq_true, ↓reduceIte]
    refine colon_reads.seq ?_
    simp only [List.append_eq, List.nil_append, List.append_assoc]
    rw [← List.append_assoc colonGap]
    exact (values m (List.mem_cons_self ..) acc).bind rest
      fun _ close => by rw [List.append_assoc]; exact endsValue_memberBytes hlast _ close

theorem length_le_memberBytes (gap colonGap : List UInt8) :
    ∀ (first : Bool) (ms : List (String × List UInt8)), ms.length ≤ (memberBytes gap colonGap first ms).length
  | _, [] => Nat.le_refl 0
  | first, m :: ms => by
    have rest := length_le_memberBytes gap colonGap false ms
    simp only [memberBytes, bytesOf_quote, List.length_append, List.length_cons, List.length_cons]
    omega

theorem readRecord_reads (name : String) (fields : List (Field σ)) (init : σ)
    {ws gap colonGap last : List UInt8} (hws : Blank ws) (hgap : Blank gap) (hlast : Blank last)
    (ms : List (Member σ)) (distinct : (ms.map (·.field.key)).Nodup)
    (found : ∀ m ∈ ms, fields.find? (·.key == m.field.key) = some m.field)
    (values : ∀ m ∈ ms, m.ReadsAfter colonGap) {after : List UInt8 → Prop} :
    Reads (readRecord name fields init)
      (ws ++ [0x7b] ++ memberBytes gap colonGap true (ms.map (·.printed)) ++ last ++ [0x7d])
      (Member.applyAll ms init) after := by
  simp only [List.append_assoc]
  apply Reads.placed
  refine (valueStart_reads hws (by decide : isBlank 0x7b = false)).bind ?_ (fun _ _ => rfl)
  rw [if_neg (by decide), if_pos (beq_self_eq_true _)]
  refine (bump_reads 0x7b).seq ?_
  -- the fuel is the length of the text, more than the number of members
  intro src i rest here follows
  have bound : ms.length < src.size + 1 := by
    have size := congrArg List.length here
    have members := length_le_memberBytes gap colonGap true (ms.map (·.printed))
    simp only [List.length_drop, Array.length_toList, List.length_append, List.length_map] at size members
    omega
  rw [bind_ok (read_apply src i), ← List.append_assoc] at *
  exact (Reads.finishing (members_reads fields hgap hlast ms (src.size + 1) [] true init distinct
    (fun _ _ h => nomatch h) found values bound) closeObject_reads (fun _ _ => rfl)) src i rest here
    follows

end members

theorem find?_key_of_nodup {σ : Type} :
    ∀ (fs : List (Field σ)), (fs.map (·.key)).Nodup → ∀ f ∈ fs, fs.find? (·.key == f.key) = some f
  | [], _, _, h => nomatch h
  | g :: gs, distinct, f, hf => by
    obtain ⟨fresh, distinct⟩ := List.nodup_cons.mp distinct
    rcases List.mem_cons.mp hf with rfl | later
    · rw [List.find?_cons_of_pos (p := fun x : Field σ => x.key == f.key) (beq_self_eq_true _)]
    · have other : (g.key == f.key) = false := by
        rw [beq_eq_false_iff_ne]
        intro same
        have named := List.mem_map_of_mem (f := fun x : Field σ => x.key) later
        rw [← same] at named
        exact fresh named
      rw [List.find?_cons_of_neg (by rw [other]; decide), find?_key_of_nodup gs distinct f later]

section layout

theorem memberBytes_later (gap colonGap : List UInt8) (m : String × List UInt8)
    (ms : List (String × List UInt8)) :
    memberBytes gap colonGap false (m :: ms) = 0x2c :: memberBytes gap colonGap true (m :: ms) := by
  simp only [memberBytes, Bool.false_eq_true, ↓reduceIte, List.nil_append, List.cons_append]

theorem bytesOf_prettyMembers (depth : Nat) :
    ∀ (m : String × Value) (ms : List (String × Value)),
      0x0a :: bytesOf (",\n".intercalate (prettyMembers depth (m :: ms))) =
        memberBytes (0x0a :: bytesOf (indent depth)) [0x20] true
          ((m :: ms).map fun kv => (kv.1, bytesOf (kv.2.prettyAt depth)))
  | (k, v), [] => by
    have colon : bytesOf ": " = [0x3a, 0x20] := by decide
    simp only [prettyMembers, String.intercalate_singleton, bytesOf_append, colon, List.map_cons,
      List.map_nil, memberBytes, ↓reduceIte, List.nil_append, List.append_nil, List.append_assoc,
      List.cons_append]
  | (k, v), m :: ms => by
    have colon : bytesOf ": " = [0x3a, 0x20] := by decide
    have comma : bytesOf ",\n" = [0x2c, 0x0a] := by decide
    have rest := bytesOf_prettyMembers depth m ms
    rw [prettyMembers, String.intercalate_cons_of_ne_nil (by cases ms <;> simp [prettyMembers]),
      List.map_cons, memberBytes]
    simp only [bytesOf_append, colon, comma, List.append_assoc, List.cons_append, List.nil_append,
      rest, ↓reduceIte]
    simp only [List.map_cons, memberBytes_later]

theorem bytesOf_prettyAt_obj (depth : Nat) (m : String × Value) (ms : List (String × Value)) :
    bytesOf ((Value.obj (m :: ms)).prettyAt depth) =
      [] ++ [0x7b] ++ memberBytes (0x0a :: bytesOf (indent (depth + 1))) [0x20] true
        ((m :: ms).map fun kv => (kv.1, bytesOf (kv.2.prettyAt (depth + 1)))) ++
        (0x0a :: bytesOf (indent depth)) ++ [0x7d] := by
  have opening : bytesOf "\x7b\n" = [0x7b, 0x0a] := by decide
  have newline : bytesOf "\n" = [0x0a] := by decide
  have closing : bytesOf "\x7d" = [0x7d] := by decide
  simp only [Value.prettyAt, bytesOf_append, opening, newline, closing, ← bytesOf_prettyMembers]
  simp only [List.nil_append, List.append_assoc, List.cons_append]

theorem bytesOf_compactMembers :
    ∀ ms : List (String × Value), bytesOf (",".intercalate (compactMembers ms)) =
      memberBytes [] [] true (ms.map fun kv => (kv.1, bytesOf kv.2.compact))
  | [] => rfl
  | [(k, v)] => by
    have colon : bytesOf ":" = [0x3a] := by decide
    simp only [compactMembers, String.intercalate_singleton, bytesOf_append, colon, List.map_cons,
      List.map_nil, memberBytes, ↓reduceIte, List.nil_append, List.append_nil, List.append_assoc]
  | (k, v) :: m :: ms => by
    have colon : bytesOf ":" = [0x3a] := by decide
    have comma : bytesOf "," = [0x2c] := by decide
    have rest := bytesOf_compactMembers (m :: ms)
    rw [compactMembers, String.intercalate_cons_of_ne_nil (by simp [compactMembers]), List.map_cons,
      memberBytes, bytesOf_append, bytesOf_append, rest]
    simp only [List.map_cons, memberBytes_later, bytesOf_append, colon, comma, List.append_assoc,
      List.cons_append, List.nil_append, ↓reduceIte]

theorem bytesOf_compact_obj (ms : List (String × Value)) :
    bytesOf (Value.obj ms).compact =
      [] ++ [0x7b] ++ memberBytes [] [] true (ms.map fun kv => (kv.1, bytesOf kv.2.compact)) ++ [] ++
        [0x7d] := by
  have opening : bytesOf "\x7b" = [0x7b] := by decide
  have closing : bytesOf "\x7d" = [0x7d] := by decide
  simp only [Value.compact, bytesOf_append, opening, closing, bytesOf_compactMembers,
    List.nil_append, List.append_nil]

end layout

end FrameRpc.Json
