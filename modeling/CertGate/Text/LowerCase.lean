/-!
# Lower case

* `caseRuns` : the letters that have a lower case, as runs of code points with one shift;
* `lowerChar` : the lower case of one character, a list since one capital has two characters;
* `lower` : the lower case of a text, character by character. The second lower case of sigma, at
  the end of a word, is not chosen: no word that is looked for here holds a sigma.

A capital beyond ASCII hardly ever becomes ASCII: `ascii_of_lowerChar` names the two that do. So a
word that holds neither of these two letters is the lower case of texts of ASCII only
(`flatMap_lowerChar_eq_iff`).
-/

namespace CertGate.Text

/-- A run of capitals `first`, `first + step`, ..., `last`, whose lower cases lie `shift` further
on. -/
structure CaseRun where
  first : Nat
  last : Nat
  step : Nat
  shift : Int
  deriving DecidableEq

/-- The capitals with a lower case of one character, in ascending order. -/
def caseRuns : List CaseRun := [
    ⟨65, 90, 1, 32⟩, ⟨192, 214, 1, 32⟩, ⟨216, 222, 1, 32⟩, ⟨256, 302, 2, 1⟩, ⟨306, 310, 2, 1⟩,
    ⟨313, 327, 2, 1⟩, ⟨330, 374, 2, 1⟩, ⟨376, 376, 1, -121⟩, ⟨377, 381, 2, 1⟩,
    ⟨385, 385, 1, 210⟩, ⟨386, 388, 2, 1⟩, ⟨390, 390, 1, 206⟩, ⟨391, 391, 1, 1⟩,
    ⟨393, 394, 1, 205⟩, ⟨395, 395, 1, 1⟩, ⟨398, 398, 1, 79⟩, ⟨399, 399, 1, 202⟩,
    ⟨400, 400, 1, 203⟩, ⟨401, 401, 1, 1⟩, ⟨403, 403, 1, 205⟩, ⟨404, 404, 1, 207⟩,
    ⟨406, 406, 1, 211⟩, ⟨407, 407, 1, 209⟩, ⟨408, 408, 1, 1⟩, ⟨412, 412, 1, 211⟩,
    ⟨413, 413, 1, 213⟩, ⟨415, 415, 1, 214⟩, ⟨416, 420, 2, 1⟩, ⟨422, 422, 1, 218⟩,
    ⟨423, 423, 1, 1⟩, ⟨425, 425, 1, 218⟩, ⟨428, 428, 1, 1⟩, ⟨430, 430, 1, 218⟩, ⟨431, 431, 1, 1⟩,
    ⟨433, 434, 1, 217⟩, ⟨435, 437, 2, 1⟩, ⟨439, 439, 1, 219⟩, ⟨440, 440, 1, 1⟩, ⟨444, 444, 1, 1⟩,
    ⟨452, 452, 1, 2⟩, ⟨453, 453, 1, 1⟩, ⟨455, 455, 1, 2⟩, ⟨456, 456, 1, 1⟩, ⟨458, 458, 1, 2⟩,
    ⟨459, 475, 2, 1⟩, ⟨478, 494, 2, 1⟩, ⟨497, 497, 1, 2⟩, ⟨498, 500, 2, 1⟩, ⟨502, 502, 1, -97⟩,
    ⟨503, 503, 1, -56⟩, ⟨504, 542, 2, 1⟩, ⟨544, 544, 1, -130⟩, ⟨546, 562, 2, 1⟩,
    ⟨570, 570, 1, 10795⟩, ⟨571, 571, 1, 1⟩, ⟨573, 573, 1, -163⟩, ⟨574, 574, 1, 10792⟩,
    ⟨577, 577, 1, 1⟩, ⟨579, 579, 1, -195⟩, ⟨580, 580, 1, 69⟩, ⟨581, 581, 1, 71⟩,
    ⟨582, 590, 2, 1⟩, ⟨880, 882, 2, 1⟩, ⟨886, 886, 1, 1⟩, ⟨895, 895, 1, 116⟩, ⟨902, 902, 1, 38⟩,
    ⟨904, 906, 1, 37⟩, ⟨908, 908, 1, 64⟩, ⟨910, 911, 1, 63⟩, ⟨913, 929, 1, 32⟩,
    ⟨931, 939, 1, 32⟩, ⟨975, 975, 1, 8⟩, ⟨984, 1006, 2, 1⟩, ⟨1012, 1012, 1, -60⟩,
    ⟨1015, 1015, 1, 1⟩, ⟨1017, 1017, 1, -7⟩, ⟨1018, 1018, 1, 1⟩, ⟨1021, 1023, 1, -130⟩,
    ⟨1024, 1039, 1, 80⟩, ⟨1040, 1071, 1, 32⟩, ⟨1120, 1152, 2, 1⟩, ⟨1162, 1214, 2, 1⟩,
    ⟨1216, 1216, 1, 15⟩, ⟨1217, 1229, 2, 1⟩, ⟨1232, 1326, 2, 1⟩, ⟨1329, 1366, 1, 48⟩,
    ⟨4256, 4293, 1, 7264⟩, ⟨4295, 4295, 1, 7264⟩, ⟨4301, 4301, 1, 7264⟩, ⟨5024, 5103, 1, 38864⟩,
    ⟨5104, 5109, 1, 8⟩, ⟨7312, 7354, 1, -3008⟩, ⟨7357, 7359, 1, -3008⟩, ⟨7680, 7828, 2, 1⟩,
    ⟨7838, 7838, 1, -7615⟩, ⟨7840, 7934, 2, 1⟩, ⟨7944, 7951, 1, -8⟩, ⟨7960, 7965, 1, -8⟩,
    ⟨7976, 7983, 1, -8⟩, ⟨7992, 7999, 1, -8⟩, ⟨8008, 8013, 1, -8⟩, ⟨8025, 8031, 2, -8⟩,
    ⟨8040, 8047, 1, -8⟩, ⟨8072, 8079, 1, -8⟩, ⟨8088, 8095, 1, -8⟩, ⟨8104, 8111, 1, -8⟩,
    ⟨8120, 8121, 1, -8⟩, ⟨8122, 8123, 1, -74⟩, ⟨8124, 8124, 1, -9⟩, ⟨8136, 8139, 1, -86⟩,
    ⟨8140, 8140, 1, -9⟩, ⟨8152, 8153, 1, -8⟩, ⟨8154, 8155, 1, -100⟩, ⟨8168, 8169, 1, -8⟩,
    ⟨8170, 8171, 1, -112⟩, ⟨8172, 8172, 1, -7⟩, ⟨8184, 8185, 1, -128⟩, ⟨8186, 8187, 1, -126⟩,
    ⟨8188, 8188, 1, -9⟩, ⟨8486, 8486, 1, -7517⟩, ⟨8490, 8490, 1, -8383⟩, ⟨8491, 8491, 1, -8262⟩,
    ⟨8498, 8498, 1, 28⟩, ⟨8544, 8559, 1, 16⟩, ⟨8579, 8579, 1, 1⟩, ⟨9398, 9423, 1, 26⟩,
    ⟨11264, 11311, 1, 48⟩, ⟨11360, 11360, 1, 1⟩, ⟨11362, 11362, 1, -10743⟩,
    ⟨11363, 11363, 1, -3814⟩, ⟨11364, 11364, 1, -10727⟩, ⟨11367, 11371, 2, 1⟩,
    ⟨11373, 11373, 1, -10780⟩, ⟨11374, 11374, 1, -10749⟩, ⟨11375, 11375, 1, -10783⟩,
    ⟨11376, 11376, 1, -10782⟩, ⟨11378, 11378, 1, 1⟩, ⟨11381, 11381, 1, 1⟩,
    ⟨11390, 11391, 1, -10815⟩, ⟨11392, 11490, 2, 1⟩, ⟨11499, 11501, 2, 1⟩, ⟨11506, 11506, 1, 1⟩,
    ⟨42560, 42604, 2, 1⟩, ⟨42624, 42650, 2, 1⟩, ⟨42786, 42798, 2, 1⟩, ⟨42802, 42862, 2, 1⟩,
    ⟨42873, 42875, 2, 1⟩, ⟨42877, 42877, 1, -35332⟩, ⟨42878, 42886, 2, 1⟩, ⟨42891, 42891, 1, 1⟩,
    ⟨42893, 42893, 1, -42280⟩, ⟨42896, 42898, 2, 1⟩, ⟨42902, 42920, 2, 1⟩,
    ⟨42922, 42922, 1, -42308⟩, ⟨42923, 42923, 1, -42319⟩, ⟨42924, 42924, 1, -42315⟩,
    ⟨42925, 42925, 1, -42305⟩, ⟨42926, 42926, 1, -42308⟩, ⟨42928, 42928, 1, -42258⟩,
    ⟨42929, 42929, 1, -42282⟩, ⟨42930, 42930, 1, -42261⟩, ⟨42931, 42931, 1, 928⟩,
    ⟨42932, 42946, 2, 1⟩, ⟨42948, 42948, 1, -48⟩, ⟨42949, 42949, 1, -42307⟩,
    ⟨42950, 42950, 1, -35384⟩, ⟨42951, 42953, 2, 1⟩, ⟨42960, 42960, 1, 1⟩, ⟨42966, 42968, 2, 1⟩,
    ⟨42997, 42997, 1, 1⟩, ⟨65313, 65338, 1, 32⟩, ⟨66560, 66599, 1, 40⟩, ⟨66736, 66771, 1, 40⟩,
    ⟨66928, 66938, 1, 39⟩, ⟨66940, 66954, 1, 39⟩, ⟨66956, 66962, 1, 39⟩, ⟨66964, 66965, 1, 39⟩,
    ⟨68736, 68786, 1, 64⟩, ⟨71840, 71871, 1, 32⟩, ⟨93760, 93791, 1, 32⟩, ⟨125184, 125217, 1, 34⟩]

def CaseRun.holds (r : CaseRun) (n : Nat) : Bool :=
  r.first ≤ n && n ≤ r.last && (n - r.first) % r.step == 0

/-- The lower case of one character. The dotted capital I keeps its dot as a combining mark. -/
def lowerChar (c : Char) : List Char :=
  if c.toNat = 304 then ['i', Char.ofNat 775]
  else match caseRuns.find? (fun r => r.holds c.toNat) with
    | some r => [Char.ofNat (c.toNat + r.shift).toNat]
    | none => [c]

def lower (s : String) : String := String.ofList (s.toList.flatMap lowerChar)

@[simp] theorem toList_lower (s : String) : (lower s).toList = s.toList.flatMap lowerChar := by
  simp [lower]

/-! ## Capitals beyond ASCII -/

/-- A run beyond ASCII stays beyond ASCII and among the characters, the Kelvin sign apart. -/
theorem caseRuns_beyond_ascii : ∀ r ∈ caseRuns, 128 ≤ r.last →
    r = ⟨8490, 8490, 1, -8383⟩ ∨ (128 ≤ r.first + r.shift ∧ (r.last + r.shift < 0xD800 ∨
      (0xDFFF < r.first + r.shift ∧ r.last + r.shift < 0x110000))) := by
  decide +kernel

theorem toNat_ofNat_of_valid {n : Nat} (h : n.isValidChar) : (Char.ofNat n).toNat = n := by
  rw [Char.ofNat, dif_pos h]
  rfl

/-- Only the Kelvin sign and the dotted capital I beyond ASCII have ASCII in their lower case. -/
theorem ascii_of_lowerChar {c d : Char} (hc : 128 ≤ c.toNat) (hd : d ∈ lowerChar c)
    (ascii : d.toNat < 128) : d = 'k' ∨ d = 'i' := by
  unfold lowerChar at hd
  split at hd
  · simp only [List.mem_cons, List.not_mem_nil, or_false] at hd
    rcases hd with rfl | rfl
    · exact Or.inr rfl
    · exact absurd ascii (by decide)
  · split at hd
    · next r hr =>
      have mem := List.mem_of_find?_eq_some hr
      have holds := List.find?_some hr
      simp only [CaseRun.holds, Bool.and_eq_true, decide_eq_true_eq] at holds
      obtain ⟨⟨lo, hi⟩, -⟩ := holds
      rw [List.mem_singleton] at hd
      rcases caseRuns_beyond_ascii r mem (by omega) with rfl | ⟨low, valid⟩
      · have : c.toNat = 8490 := by simp at lo hi; omega
        left
        rw [hd, this]
        rfl
      · have : (c.toNat + r.shift).toNat.isValidChar := by
          simp only [Nat.isValidChar]
          omega
        rw [hd, toNat_ofNat_of_valid this] at ascii
        omega
    · rw [List.mem_singleton] at hd
      subst hd
      omega

/-! ## ASCII -/

theorem caseRuns_of_ascii : ∀ r ∈ caseRuns, r = ⟨65, 90, 1, 32⟩ ∨ 128 ≤ r.first := by
  decide +kernel

/-- Only a letter of ASCII is changed by the lower case of ASCII. -/
theorem toLower_of_not_capital {c : Char} (other : ¬ (65 ≤ c.toNat ∧ c.toNat ≤ 90)) :
    c.toLower = c := by
  unfold Char.toLower
  exact dif_neg fun capital => other capital

/-- The lower case of ASCII is that of its letters. -/
theorem lowerChar_of_ascii {c : Char} (ascii : c.toNat < 128) : lowerChar c = [c.toLower] := by
  by_cases capital : 65 ≤ c.toNat ∧ c.toNat ≤ 90
  · have letters : ∀ n < 26, lowerChar (Char.ofNat (65 + n)) = [(Char.ofNat (65 + n)).toLower] := by
      decide +kernel
    obtain ⟨n, same⟩ := Nat.exists_eq_add_of_le capital.1
    have letter := letters n (by omega)
    rwa [← same, Char.ofNat_toNat] at letter
  · have missing : caseRuns.find? (fun r => r.holds c.toNat) = none := by
      refine List.find?_eq_none.2 fun r mem holds => ?_
      simp only [CaseRun.holds, Bool.and_eq_true, decide_eq_true_eq] at holds
      rcases caseRuns_of_ascii r mem with rfl | beyond
      · exact capital holds.1
      · omega
    unfold lowerChar
    rw [if_neg (by omega), missing, toLower_of_not_capital capital]

theorem lowerChar_ne_nil (c : Char) : lowerChar c ≠ [] := by
  unfold lowerChar
  split
  · nofun
  · split <;> nofun

theorem ascii_of_toLower {c : Char} (ascii : c.toLower.toNat < 128) : c.toNat < 128 := by
  by_cases capital : 65 ≤ c.toNat ∧ c.toNat ≤ 90
  · omega
  · rwa [toLower_of_not_capital capital] at ascii

theorem flatMap_lowerChar_of_ascii {cs : List Char} (ascii : ∀ c ∈ cs, c.toNat < 128) :
    cs.flatMap lowerChar = cs.map Char.toLower := by
  induction cs with
  | nil => rfl
  | cons c cs ih =>
    rw [List.flatMap_cons, lowerChar_of_ascii (ascii c (by simp)),
      ih fun d mem => ascii d (by simp [mem])]
    rfl

/-- Only texts of ASCII have a word of ASCII as their lower case that holds neither of the two
letters with a capital beyond ASCII. -/
theorem flatMap_lowerChar_eq_iff {cs word : List Char}
    (plain : ∀ d ∈ word, d.toNat < 128 ∧ d ≠ 'k' ∧ d ≠ 'i') :
    cs.flatMap lowerChar = word ↔ cs.map Char.toLower = word := by
  constructor
  · rintro rfl
    refine (flatMap_lowerChar_of_ascii fun c mem => Nat.lt_of_not_le fun beyond => ?_).symm
    obtain ⟨d, lower⟩ := List.exists_mem_of_ne_nil _ (lowerChar_ne_nil c)
    obtain ⟨ascii, not_k, not_i⟩ := plain d (List.mem_flatMap.2 ⟨c, mem, lower⟩)
    rcases ascii_of_lowerChar beyond lower ascii with rfl | rfl
    · exact not_k rfl
    · exact not_i rfl
  · rintro rfl
    exact flatMap_lowerChar_of_ascii fun c mem =>
      ascii_of_toLower (plain _ (List.mem_map_of_mem mem)).1

end CertGate.Text
