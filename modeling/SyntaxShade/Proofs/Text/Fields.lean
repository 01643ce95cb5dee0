import SyntaxShade.Text.Fields
/-! Fields that hold no white space, joined by single spaces, split back into themselves
(`Fields.split_intercalate`). -/
namespace SyntaxShade

namespace Rune

variable {b : Bytes}

theorem isTail_of_lt {y : UInt8} (hy : y < 0x80) : isTail y = false := by
  simp only [isTail, Bool.and_eq_false_iff, decide_eq_false_iff_not]
  left
  exact UInt8.not_le.mpr hy

theorem two_append (b0 : UInt8) (rest : Bytes) (hb : ∀ y ∈ b.head?, y < 0x80) :
    two b0 (rest ++ b) = two b0 rest := by
  rcases rest with _ | ⟨r1, rest⟩
  · rcases b with _ | ⟨y, b⟩
    · rfl
    · simp [two, isTail_of_lt (hb y rfl)]
  · rfl

theorem three_append (b0 lo hi : UInt8) (hlo : 0x80 ≤ lo) (rest : Bytes) (hb : ∀ y ∈ b.head?, y < 0x80) :
    three b0 lo hi (rest ++ b) = three b0 lo hi rest := by
  rcases rest with _ | ⟨r1, _ | ⟨r2, rest⟩⟩
  · rcases b with _ | ⟨y, _ | ⟨z, b⟩⟩
    · rfl
    · rfl
    · -- the second byte would be ASCII, below `lo`
      have hy : ¬ lo ≤ y := UInt8.not_le.mpr (UInt8.lt_of_lt_of_le (hb y rfl) hlo)
      simp [three, hy]
  · rcases b with _ | ⟨y, b⟩
    · rfl
    · simp [three, isTail_of_lt (hb y rfl)]
  · rfl

theorem four_append (b0 lo hi : UInt8) (hlo : 0x80 ≤ lo) (rest : Bytes) (hb : ∀ y ∈ b.head?, y < 0x80) :
    four b0 lo hi (rest ++ b) = four b0 lo hi rest := by
  rcases rest with _ | ⟨r1, _ | ⟨r2, _ | ⟨r3, rest⟩⟩⟩
  · rcases b with _ | ⟨y, _ | ⟨z, _ | ⟨w, b⟩⟩⟩
    · rfl
    · rfl
    · rfl
    · have hy : ¬ lo ≤ y := UInt8.not_le.mpr (UInt8.lt_of_lt_of_le (hb y rfl) hlo)
      simp [four, hy]
  · rcases b with _ | ⟨y, _ | ⟨z, b⟩⟩
    · rfl
    · rfl
    · simp [four, isTail_of_lt (hb y rfl)]
  · rcases b with _ | ⟨y, b⟩
    · rfl
    · simp [four, isTail_of_lt (hb y rfl)]
  · rfl

/-- The rune at the front of a text does not look past an ASCII byte. -/
theorem ofCons_append (b0 : UInt8) (rest : Bytes) (hb : ∀ y ∈ b.head?, y < 0x80) :
    ofCons b0 (rest ++ b) = ofCons b0 rest := by
  simp only [ofCons, two_append b0 rest hb, three_append b0 0xA0 0xBF (by decide) rest hb,
    three_append b0 0x80 0x9F (by decide) rest hb, three_append b0 0x80 0xBF (by decide) rest hb,
    four_append b0 0x90 0xBF (by decide) rest hb, four_append b0 0x80 0xBF (by decide) rest hb,
    four_append b0 0x80 0x8F (by decide) rest hb]

theorem decode_ascii {y : UInt8} (hy : y < 0x80) (rest : Bytes) : decode (y :: rest) = ⟨y.toNat, 1⟩ := by
  simp [decode, ofCons, hy]

end Rune

namespace Utf8

@[simp] theorem runes_nil : runes [] = [] := by
  rw [runes]

theorem runes_cons (b : UInt8) (rest : Bytes) :
    runes (b :: rest) =
      (Rune.decode (b :: rest), (b :: rest).take (Rune.decode (b :: rest)).width) ::
        runes ((b :: rest).drop (Rune.decode (b :: rest)).width) := by
  rw [runes]

theorem runes_ascii {y : UInt8} (hy : y < 0x80) (rest : Bytes) :
    runes (y :: rest) = (⟨y.toNat, 1⟩, [y]) :: runes rest := by
  rw [runes_cons, Rune.decode_ascii hy]
  rfl

/-- The runes of a text read in pieces, cut before an ASCII byte. -/
theorem runes_append (a b : Bytes) (hb : ∀ y ∈ b.head?, y < 0x80) :
    runes (a ++ b) = runes a ++ runes b := by
  fun_induction runes a with
  | case1 => rfl
  | case2 x rest r ih =>
    have hr : Rune.decode (x :: (rest ++ b)) = r := Rune.ofCons_append x rest hb
    have hle : r.width ≤ (x :: rest).length := Rune.width_le (x :: rest)
    rw [List.cons_append, runes_cons, hr, ← List.cons_append, List.take_append_of_le_length hle,
      List.drop_append_of_le_length hle, ih, List.cons_append]

theorem flatten_runes (s : Bytes) : ((runes s).map Prod.snd).flatten = s := by
  fun_induction runes s with
  | case1 => rfl
  | case2 x rest r ih =>
    rw [List.map_cons, List.flatten_cons, ih, List.take_append_drop]

end Utf8

namespace Fields

/-- Whether a text holds a rune of white space. -/
def hasSpace (s : Bytes) : Bool := (Utf8.runes s).any fun p => !p.1.isInvalid && isSpace p.1.code

theorem hasSpace_append (a b : Bytes) (hb : ∀ y ∈ b.head?, y < 0x80) :
    hasSpace (a ++ b) = (hasSpace a || hasSpace b) := by
  simp [hasSpace, Utf8.runes_append a b hb]

theorem hasSpace_ascii {y : UInt8} (hy : y < 0x80) (rest : Bytes) :
    hasSpace (y :: rest) = (isSpace y.toNat || hasSpace rest) := by
  -- an ASCII byte is below U+FFFD, so it is never read as a malformed byte
  have hcode : (y.toNat == Rune.replacement) = false := by
    have : y.toNat < 0x80 := UInt8.lt_iff_toNat_lt.mp hy
    simp only [Rune.replacement, beq_eq_false_iff_ne, ne_eq]
    omega
  simp [hasSpace, Utf8.runes_ascii hy, Rune.isInvalid, hcode]

theorem hasSpace_eq_false_of_ascii {s : Bytes} (h : ∀ y ∈ s, y < 0x80 ∧ isSpace y.toNat = false) :
    hasSpace s = false := by
  induction s with
  | nil => simp [hasSpace]
  | cons y rest ih =>
    obtain ⟨hy, hsp⟩ := h y List.mem_cons_self
    rw [hasSpace_ascii hy, hsp, ih fun z hz => h z (List.mem_cons_of_mem y hz), Bool.false_or]

/-- A text that holds no white space holds no ASCII white-space byte. -/
theorem isSpace_eq_false_of_mem {s : Bytes} (hs : hasSpace s = false) {y : UInt8} (hy : y ∈ s)
    (hascii : y < 0x80) : isSpace y.toNat = false := by
  obtain ⟨a, b, rfl⟩ := List.mem_iff_append.mp hy
  rw [hasSpace_append a (y :: b) (by simpa using hascii), hasSpace_ascii hascii] at hs
  simp only [Bool.or_eq_false_iff] at hs
  exact hs.2.1

/-- Reading runes none of which is white space adds their bytes to the field begun so far. -/
theorem collect_append_of_forall {rs : List (Rune × Bytes)}
    (hnone : ∀ p ∈ rs, (!p.1.isInvalid && isSpace p.1.code) = false) (rest : List (Rune × Bytes))
    (cur : Bytes) : collect (rs ++ rest) cur = collect rest ((rs.map Prod.snd).flatten.reverse ++ cur) := by
  induction rs generalizing cur with
  | nil => rfl
  | cons p rs ih =>
    obtain ⟨r, raw⟩ := p
    have hp : (!r.isInvalid && isSpace r.code) = false := hnone (r, raw) List.mem_cons_self
    rw [List.cons_append, collect, if_neg (by simpa using hp),
      ih (fun q hq => hnone q (List.mem_cons_of_mem _ hq))]
    simp

theorem collect_append_of_hasSpace_eq_false {s : Bytes} (hs : hasSpace s = false)
    (rest : List (Rune × Bytes)) (cur : Bytes) :
    collect (Utf8.runes s ++ rest) cur = collect rest (s.reverse ++ cur) := by
  rw [collect_append_of_forall (by simpa [hasSpace] using hs), Utf8.flatten_runes]

/-- Fields that hold no white space, joined by single spaces, split back into themselves. -/
theorem split_intercalate {fs : List Bytes} (hne : ∀ f ∈ fs, f ≠ []) (hsp : ∀ f ∈ fs, hasSpace f = false) :
    split ([0x20].intercalate fs) = fs := by
  unfold split
  induction fs with
  | nil => simp [collect]
  | cons f fs ih =>
    have hf : hasSpace f = false := hsp f List.mem_cons_self
    have hrev : f.reverse ≠ [] := by simpa using hne f List.mem_cons_self
    cases fs with
    | nil =>
      rw [List.intercalate_singleton, ← List.append_nil (Utf8.runes f),
        collect_append_of_hasSpace_eq_false hf, List.append_nil, collect, if_neg hrev, List.reverse_reverse]
    | cons g gs =>
      rw [List.intercalate_cons_cons, List.append_assoc, List.singleton_append,
        Utf8.runes_append f _ (by simp), Utf8.runes_ascii (by decide),
        collect_append_of_hasSpace_eq_false hf, List.append_nil, collect,
        if_pos (by decide), if_neg hrev, List.reverse_reverse,
        ih (fun x hx => hne x (List.mem_cons_of_mem f hx)) (fun x hx => hsp x (List.mem_cons_of_mem f hx))]

end Fields

end SyntaxShade
