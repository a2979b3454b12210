import RepoFeed.Text.Utf8

/-
The octets of a text decode to the text.

The proof follows the decoder over the one to four octets of a character; the
bounds that the first octet sets for the second are met because no character
has more octets than it needs and none is a surrogate.
-/

namespace RepoFeed
namespace Utf8

theorem items_cons (state : State) {n : Nat} (h : n < 256) (octets : Octets) :
    items state (UInt8.ofNat n :: octets) =
      (step state n).1 ++ items (step state n).2 octets := by
  have hn : (UInt8.ofNat n).toNat = n := by
    rw [UInt8.toNat_ofNat']
    omega
  cases state <;> rw [items, hn]

/-- An octet within its bounds brings a character one step closer. -/
theorem step_owing {missing low high value n : Nat} (hn : low ≤ n ∧ n ≤ high) :
    step (.owing missing low high value) n =
      if missing ≤ 1 then ([some (Char.ofNat (value * 64 + (n - 0x80)))], .ready)
      else ([], .owing (missing - 1) 0x80 0xBF (value * 64 + (n - 0x80))) := by
  simp only [step, if_pos hn]

theorem items_last {low high value n : Nat} (hn : low ≤ n ∧ n ≤ high) (hoctet : n < 256)
    (octets : Octets) :
    items (.owing 1 low high value) (UInt8.ofNat n :: octets) =
      some (Char.ofNat (value * 64 + (n - 0x80))) :: items .ready octets := by
  rw [items_cons _ hoctet, step_owing hn]
  rfl

theorem items_more {missing low high value n : Nat} (hn : low ≤ n ∧ n ≤ high) (hoctet : n < 256)
    (octets : Octets) :
    items (.owing (missing + 2) low high value) (UInt8.ofNat n :: octets) =
      items (.owing (missing + 1) 0x80 0xBF (value * 64 + (n - 0x80))) octets := by
  rw [items_cons _ hoctet, step_owing hn]
  rfl

theorem items_two {n : Nat} (hn : 0xC2 ≤ n ∧ n < 0xE0) (octets : Octets) :
    items .ready (UInt8.ofNat n :: octets) =
      items (.owing 1 0x80 0xBF (n - 0xC0)) octets := by
  rw [items_cons _ (by omega)]
  simp only [step, first, if_neg (show ¬n < 0x80 by omega), if_neg (show ¬n < 0xC2 by omega),
    if_pos hn.2, List.nil_append]

/-- A first octet that owes two more says where the second may lie. -/
theorem items_three {n : Nat} (hn : 0xE0 ≤ n ∧ n < 0xF0) (octets : Octets) :
    ∃ low high, items .ready (UInt8.ofNat n :: octets) =
        items (.owing 2 low high (n - 0xE0)) octets ∧
      low = (if n = 0xE0 then 0xA0 else 0x80) ∧ high = (if n = 0xED then 0x9F else 0xBF) := by
  rw [items_cons _ (by omega)]
  simp only [step, first, if_neg (show ¬n < 0x80 by omega), if_neg (show ¬n < 0xC2 by omega),
    if_neg (show ¬n < 0xE0 by omega), if_pos hn.2]
  by_cases hleast : n = 0xE0
  · subst hleast
    exact ⟨_, _, rfl, rfl, rfl⟩
  · by_cases hsurrogate : n = 0xED
    · subst hsurrogate
      exact ⟨_, _, rfl, rfl, rfl⟩
    · simp only [if_neg hleast, if_neg hsurrogate]
      exact ⟨_, _, rfl, rfl, rfl⟩

theorem items_four {n : Nat} (hn : 0xF0 ≤ n ∧ n < 0xF5) (octets : Octets) :
    ∃ low high, items .ready (UInt8.ofNat n :: octets) =
        items (.owing 3 low high (n - 0xF0)) octets ∧
      low = (if n = 0xF0 then 0x90 else 0x80) ∧ high = (if n = 0xF4 then 0x8F else 0xBF) := by
  rw [items_cons _ (by omega)]
  have hne : n ≠ 0xE0 ∧ n ≠ 0xED := by omega
  simp only [step, first, if_neg (show ¬n < 0x80 by omega), if_neg (show ¬n < 0xC2 by omega),
    if_neg (show ¬n < 0xE0 by omega), if_neg (show ¬n < 0xF0 by omega), if_neg hne.1, if_neg hne.2]
  by_cases hleast : n = 0xF0
  · subst hleast
    exact ⟨_, _, rfl, rfl, rfl⟩
  · by_cases hgreatest : n = 0xF4
    · subst hgreatest
      exact ⟨_, _, rfl, rfl, rfl⟩
    · simp only [if_neg hleast, if_neg hgreatest, if_pos (show n < 0xF4 by omega)]
      exact ⟨_, _, rfl, rfl, rfl⟩

theorem items_utf8EncodeChar (c : Char) (octets : Octets) :
    items .ready (String.utf8EncodeChar c ++ octets) = some c :: items .ready octets := by
  obtain ⟨v, hv⟩ : ∃ v, v = c.toNat := ⟨_, rfl⟩
  have hback : Char.ofNat v = c := by rw [hv, Char.ofNat_toNat]
  have hvalid : v < 0xD800 ∨ (0xDFFF < v ∧ v < 0x110000) := by
    rw [hv]
    exact c.valid
  rw [String.utf8EncodeChar, show c.val.toNat = v from hv.symm]
  by_cases hone : v ≤ 0x7F
  · simp only [if_pos hone, List.cons_append, List.nil_append]
    rw [items_cons _ (by omega)]
    simp only [step, first, if_pos (show v < 0x80 by omega), hback]
    rfl
  · by_cases htwo : v ≤ 0x7FF
    · simp only [if_neg hone, if_pos htwo, List.cons_append, List.nil_append]
      rw [items_two (by omega), items_last (by omega) (by omega)]
      rw [show (v / 64 % 0x20 + 0xC0 - 0xC0) * 64 + (v % 0x40 + 0x80 - 0x80) = v by omega, hback]
    · by_cases hthree : v ≤ 0xFFFF
      · simp only [if_neg hone, if_neg htwo, if_pos hthree, List.cons_append, List.nil_append]
        obtain ⟨low, high, hitems, hlow, hhigh⟩ := items_three
          (n := v / 4096 % 0x10 + 0xE0) (by omega)
          (UInt8.ofNat (v / 64 % 0x40 + 0x80) :: UInt8.ofNat (v % 0x40 + 0x80) :: octets)
        have hsecond : low ≤ v / 64 % 0x40 + 0x80 ∧ v / 64 % 0x40 + 0x80 ≤ high := by
          rw [hlow, hhigh]
          split <;> split <;> omega
        rw [hitems, items_more hsecond (by omega), items_last (by omega) (by omega)]
        rw [show ((v / 4096 % 0x10 + 0xE0 - 0xE0) * 64 + (v / 64 % 0x40 + 0x80 - 0x80)) * 64 +
          (v % 0x40 + 0x80 - 0x80) = v by omega, hback]
      · simp only [if_neg hone, if_neg htwo, if_neg hthree, List.cons_append, List.nil_append]
        obtain ⟨low, high, hitems, hlow, hhigh⟩ := items_four
          (n := v / 262144 % 0x08 + 0xF0) (by omega)
          (UInt8.ofNat (v / 4096 % 0x40 + 0x80) :: UInt8.ofNat (v / 64 % 0x40 + 0x80) ::
            UInt8.ofNat (v % 0x40 + 0x80) :: octets)
        have hsecond : low ≤ v / 4096 % 0x40 + 0x80 ∧ v / 4096 % 0x40 + 0x80 ≤ high := by
          rw [hlow, hhigh]
          split <;> split <;> omega
        rw [hitems, items_more hsecond (by omega), items_more (by omega) (by omega),
          items_last (by omega) (by omega)]
        rw [show (((v / 262144 % 0x08 + 0xF0 - 0xF0) * 64 + (v / 4096 % 0x40 + 0x80 - 0x80)) * 64 +
          (v / 64 % 0x40 + 0x80 - 0x80)) * 64 + (v % 0x40 + 0x80 - 0x80) = v by omega, hback]

theorem items_encode (text : List Char) : items .ready (encode text) = text.map some := by
  induction text with
  | nil => rfl
  | cons c text ih =>
    rw [encode, List.flatMap_cons, items_utf8EncodeChar]
    exact congrArg (some c :: ·) ih

theorem decode?_encode (text : List Char) : decode? (encode text) = some text := by
  rw [decode?, items_encode]
  induction text with
  | nil => rfl
  | cons c text ih => simp [List.mapM_cons, ih]

theorem decodeLossy_encode (text : List Char) : decodeLossy (encode text) = text := by
  rw [decodeLossy, items_encode, List.map_map]
  exact List.map_id' text

end Utf8
end RepoFeed
