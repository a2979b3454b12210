import Mathlib.Data.List.Basic
import Mathlib.Tactic.SplitIfs
import RepoFeed.Proofs.Text.Split
import RepoFeed.Proofs.Text.Utf8
import RepoFeed.Request.Url
import RepoFeed.Text.Digit

/-
Queries as forms.

A server takes a query apart at its ampersands and each part at its first equals sign,
and then it decodes names and values: a plus sign is a space, and a percent sign with two
hexadecimal digits is an octet.  Where no two digits follow, a percent sign is a percent
sign.  Encoding writes no ampersand, equals sign or plus sign of its own that could be
taken for one of these, so what has been appended to a query is found at its end, as it
was, whatever the query was before.
-/

namespace RepoFeed

namespace Percent

/-- The octet that three characters stand for, if they are an encoded one. -/
def octetOf? (mark high low : Char) : Option UInt8 :=
  if mark = '%' then do
    let h ← Text.hexDigit? high
    let l ← Text.hexDigit? low
    return UInt8.ofNat (h * 16 + l)
  else none

/-- The octets of a text with encoded octets in it. -/
def octets : List Char → Utf8.Octets
  | mark :: high :: low :: text =>
    match octetOf? mark high low with
    | some b => b :: octets text
    | none => Utf8.encode [mark] ++ octets (high :: low :: text)
  | text => Utf8.encode text

/-- What encoded octets are written with. -/
def isCode (c : Char) : Bool :=
  c == '%' || c.isAlphanum

/-! ## Octets -/

theorem hexDigit?_hexDigit {n : Nat} (h : n < 16) : Text.hexDigit? (hexDigit n) = some n := by
  have htable : ∀ n : Fin 16, Text.hexDigit? (hexDigit n) = some n.val := by decide
  exact htable ⟨n, h⟩

theorem isCode_of_mem_octet {b : UInt8} {c : Char} (h : c ∈ octet b) : isCode c = true := by
  have htable : ∀ n : Fin 16, isCode (hexDigit n) = true := by decide
  have hhigh : b.toNat / 16 < 16 := by
    have := b.toNat_lt
    omega
  simp only [octet, List.mem_cons, List.not_mem_nil, or_false] at h
  obtain rfl | rfl | rfl := h
  · rfl
  · exact htable ⟨_, hhigh⟩
  · exact htable ⟨_, Nat.mod_lt _ (by decide)⟩

theorem octets_octet_append (b : UInt8) (text : List Char) :
    octets (octet b ++ text) = b :: octets text := by
  have hb := b.toNat_lt
  have hoctet : octetOf? '%' (hexDigit (b.toNat / 16)) (hexDigit (b.toNat % 16)) = some b := by
    rw [octetOf?, if_pos rfl, hexDigit?_hexDigit (by omega), hexDigit?_hexDigit (by omega)]
    show some (UInt8.ofNat (b.toNat / 16 * 16 + b.toNat % 16)) = some b
    rw [Nat.div_add_mod', UInt8.ofNat_toNat]
  simp only [octet, List.cons_append, List.nil_append, octets, hoctet]

theorem octets_flatMap_octet_append (bytes : Utf8.Octets) (text : List Char) :
    octets (bytes.flatMap octet ++ text) = bytes ++ octets text := by
  induction bytes with
  | nil => rfl
  | cons b bytes ih =>
    rw [List.flatMap_cons, List.append_assoc, octets_octet_append, ih, List.cons_append]

/-- A character that begins no encoded octet stands for itself. -/
theorem octets_cons {c : Char} (h : c ≠ '%') (text : List Char) :
    octets (c :: text) = Utf8.encode [c] ++ octets text := by
  have hnone : ∀ high low, octetOf? c high low = none := fun _ _ => if_neg h
  match text with
  | [] => simp [octets, Utf8.encode]
  | [_] => simp [octets, Utf8.encode]
  | high :: low :: text => simp only [octets, hnone]

theorem isCode_of_mem_encodeChar {c d : Char} (h : d ∈ encodeChar c) : isCode d = true := by
  obtain ⟨b, -, hd⟩ := List.mem_flatMap.mp h
  exact isCode_of_mem_octet hd

/-- What a part of a URL reserves does not occur in it, and encoding brings none of it. -/
theorem disjoint_encode {stops : List Char} {isReserved : Char → Bool}
    (hreserved : stops.all isReserved = true) (hcode : stops.any isCode = false)
    (text : List Char) : (encode isReserved text).Disjoint stops := by
  intro c hc hstop
  obtain ⟨d, -, hc⟩ := List.mem_flatMap.mp hc
  split at hc
  · exact List.any_eq_false.mp hcode c hstop (isCode_of_mem_encodeChar hc)
  · obtain rfl := List.mem_singleton.mp hc
    exact ‹¬isReserved c = true› (List.all_eq_true.mp hreserved c hstop)

end Percent

namespace Form

/-- The text of an encoded name or value. -/
def decode (text : List Char) : List Char :=
  Utf8.decodeLossy (Percent.octets (text.map fun c => if c = '+' then ' ' else c))

/-- A name and its value, which is empty without an equals sign. -/
def pairOf (text : List Char) : List Char × List Char :=
  let (name, value) := Text.cut (· == '=') text
  (decode name, decode (value.getD []))

/-- The names and values of a query, in order.  Empty parts are no pairs. -/
def pairs (query : List Char) : List (List Char × List Char) :=
  ((Text.split (· == '&') query).filter (!·.isEmpty)).map pairOf

/-- What a form writes values with. -/
def isFormChar (c : Char) : Bool :=
  c == '+' || Percent.isPlainInForm c || Percent.isCode c

theorem isFormChar_of_mem_encodeForm {text : List Char} :
    ∀ c ∈ Percent.encodeForm text, isFormChar c = true := by
  intro d hd
  obtain ⟨c, -, hd⟩ := List.mem_flatMap.mp hd
  split_ifs at hd with hspace hplain
  · rw [List.mem_singleton.mp hd]
    rfl
  · rw [List.mem_singleton.mp hd, isFormChar, hplain, Bool.or_true, Bool.true_or]
  · rw [isFormChar, Percent.isCode_of_mem_encodeChar hd, Bool.or_true]

theorem disjoint_encodeForm {stops : List Char} (hstops : stops.any isFormChar = false)
    (text : List Char) : (Percent.encodeForm text).Disjoint stops := by
  intro c hc hstop
  exact List.any_eq_false.mp hstops c hstop (isFormChar_of_mem_encodeForm c hc)

/-- What cannot be in a name or a value as it is put into a query. -/
theorem disjoint_pair {stops : List Char} (hstops : stops.any isFormChar = false)
    (hequals : '=' ∉ stops) (name value : List Char) :
    (Percent.encodeForm name ++ '=' :: Percent.encodeForm value).Disjoint stops := by
  rw [List.disjoint_append_left, List.disjoint_cons_left]
  exact ⟨disjoint_encodeForm hstops name, hequals, disjoint_encodeForm hstops value⟩

/-- The induction is on the text: of each character the same octets come back, whichever
way it was written. -/
theorem octets_encodeForm (text : List Char) :
    Percent.octets ((Percent.encodeForm text).map fun c => if c = '+' then ' ' else c) =
      Utf8.encode text := by
  induction text with
  | nil => rfl
  | cons c text ih =>
    have hencode : Utf8.encode (c :: text) = Utf8.encode [c] ++ Utf8.encode text := by
      simp [Utf8.encode]
    rw [Percent.encodeForm, List.flatMap_cons, ← Percent.encodeForm, List.map_append, hencode, ← ih]
    split_ifs with hspace hplain
    · subst hspace
      exact Percent.octets_cons (by decide) _
    · have hplus : c ≠ '+' := by
        rintro rfl
        contradiction
      have hpercent : c ≠ '%' := by
        rintro rfl
        contradiction
      rw [List.map_singleton, if_neg hplus]
      exact Percent.octets_cons hpercent _
    · have hcode : ∀ d ∈ Percent.encodeChar c, (if d = '+' then ' ' else d) = d := by
        intro d hd
        refine if_neg ?_
        rintro rfl
        exact absurd (Percent.isCode_of_mem_encodeChar hd) (by decide)
      rw [List.map_congr_left hcode, List.map_id']
      exact Percent.octets_flatMap_octet_append _ _

theorem decode_encodeForm (text : List Char) : decode (Percent.encodeForm text) = text := by
  rw [decode, octets_encodeForm, Utf8.decodeLossy_encode]

/-! ## Pairs -/

theorem pairs_append_cons (query rest : List Char) :
    pairs (query ++ '&' :: rest) = pairs query ++ pairs rest := by
  rw [pairs, Text.split_append_cons (by rfl), List.filter_append, List.map_append]
  rfl

theorem pairOf_encodeForm (name value : List Char) :
    pairOf (Percent.encodeForm name ++ '=' :: Percent.encodeForm value) = (name, value) := by
  have hname : '=' ∉ Percent.encodeForm name :=
    List.disjoint_singleton.mp (disjoint_encodeForm (by decide) name)
  simp only [pairOf, Text.cut_append_cons hname, Option.getD_some, decode_encodeForm]

theorem pairs_encodeForm (name value : List Char) :
    pairs (Percent.encodeForm name ++ '=' :: Percent.encodeForm value) = [(name, value)] := by
  obtain ⟨pair, hpair⟩ :
      ∃ pair, Percent.encodeForm name ++ '=' :: Percent.encodeForm value = pair := ⟨_, rfl⟩
  have hmark : '&' ∉ pair :=
    hpair ▸ List.disjoint_singleton.mp (disjoint_pair (by decide) (by decide) name value)
  have hone : ∀ c ∈ pair, (c == '&') = false :=
    fun c hc => beq_eq_false_iff_ne.mpr (ne_of_mem_of_not_mem hc hmark)
  have hsome : (!pair.isEmpty) = true := by simp [← hpair]
  rw [hpair, pairs, Text.split_of_forall hone, List.filter_cons, if_pos hsome, List.filter_nil,
    List.map_singleton, ← hpair, pairOf_encodeForm]

/-- What is added to a query is its last pair, with the pairs of before in front. -/
theorem exists_query_addPair (url : Url) (name value : List Char) :
    ∃ query, (url.addPair name value).query = some query ∧
      pairs query = pairs (url.query.getD []) ++ [(name, value)] := by
  refine ⟨_, rfl, ?_⟩
  have hpair := pairs_encodeForm name value
  obtain ⟨path, query, fragment⟩ := url
  match query with
  | none => exact hpair
  | some [] => exact hpair
  | some (c :: query) =>
    show pairs (c :: query ++ '&' :: _) = _
    rw [pairs_append_cons, hpair]
    rfl

end Form
end RepoFeed
