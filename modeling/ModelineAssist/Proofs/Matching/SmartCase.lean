import ModelineAssist.Proofs.Matching.Narrowing
import ModelineAssist.Proofs.Registry.Builtin

/-!
The smart case rule. It is meant to count case if the typed text holds a capital letter, and to
disregard it otherwise. At the front and within a label it does. Letters that lie scattered are
compared word by word, and there each word decides for itself, by whether folding changes one of its
letters. So what is accepted is what is meant wherever all words decide as the whole text does, and
on labels of small ASCII letters throughout, such as the names of the known options.
-/
namespace ModelineAssist.Matching
open Text

variable {label typed text : List Char} {rule : CaseRule} {strategy : Strategy} {c : Char}

/-- The rule that the smart one is meant to be for a typed text. -/
def wholeRule (typed : List Char) : CaseRule :=
  if typed.any isUppercase then .respect else .ignore

/-- The words of a typed text as they stand in it. -/
def wordTexts (typed : List Char) : List (List Char) := (splitWords false typed).filter (· ≠ [])

/-- What a word is read by: its characters if it is ASCII, and else the first of each cluster. -/
def comparedLetters (text : List Char) : List Char :=
  if text.all isAscii then text else clusterHeads text

/-- The rule that a word decides for by itself. -/
def ownRule (text : List Char) : CaseRule :=
  if (comparedLetters text).any foldsAway then .respect else .ignore

/-- A word of a typed text fits a label under a case rule. -/
def Fits (label : List Char) (rule : CaseRule) (text : List Char) : Prop :=
  (Word.ofTyped rule text).fits (Label.ofText label) = true

/-- The smart rule accepts a label as it is meant to. -/
def SmartAsMeant (strategy : Strategy) (label typed : List Char) : Prop :=
  Policy.accepts ⟨strategy, .smart⟩ label typed =
    Policy.accepts ⟨strategy, wholeRule typed⟩ label typed

/-! ### Letters that fold -/

/-- The ASCII characters that folding changes are the capital letters. -/
theorem foldsAway_of_isAscii (hc : isAscii c = true) : foldsAway c = isAsciiUpper c :=
  forall_of_isAscii (p := fun c => foldsAway c = isAsciiUpper c) (by decide +kernel) hc

theorem any_foldsAway_of_ascii (ha : Ascii text) :
    text.any foldsAway = text.any isAsciiUpper := by
  rw [Bool.eq_iff_iff, List.any_eq_true, List.any_eq_true]
  exact exists_congr fun c => and_congr_right fun hc => by rw [foldsAway_of_isAscii (ha c hc)]

theorem foldsAway_of_isAsciiUpper (h : isAsciiUpper c = true) : foldsAway c = true := by
  have hc : isAscii c = true := by
    simp only [isAsciiUpper, Bool.and_eq_true, decide_eq_true_eq, Char.le_def,
      UInt32.le_iff_toNat_le] at h
    exact decide_eq_true (Nat.lt_of_le_of_lt h.2 (by decide))
  rw [foldsAway_of_isAscii hc, h]

theorem map_fold_of_any_eq_false (h : text.any foldsAway = false) : text.map fold = text := by
  have hfold : ∀ c ∈ text, fold c = c := fun c hc => by
    simpa [foldsAway] using List.any_eq_false.mp h c hc
  rw [List.map_congr_left hfold, List.map_id']

theorem map_asciiLower_of_any_foldsAway (h : text.any foldsAway = false) :
    text.map asciiLower = text := by
  refine map_asciiLower_of_any_eq_false (List.any_eq_false.mpr fun c hc hupper => ?_)
  exact List.any_eq_false.mp h c hc (foldsAway_of_isAsciiUpper hupper)

/-- The backslash that `unescape` drops does not fold. -/
theorem any_unescape {p : Char → Bool} (hp : p '\\' = false) (text : List Char) :
    (unescape text).any p = text.any p := by
  fun_induction unescape text with
  | case1 => rfl
  | case2 cs ih => simp [ih, hp]
  | case3 c cs _ ih => simp [ih]

/-! ### What a word decides for -/

theorem comparedLetters_of_ascii (ha : Ascii text) : comparedLetters text = text :=
  if_pos (all_isAscii.mpr ha)

/-- An ASCII word decides as it would if it were the whole of the typed text. -/
theorem ownRule_of_ascii (ha : Ascii text) : ownRule text = wholeRule text := by
  rw [ownRule, comparedLetters_of_ascii ha, any_foldsAway_of_ascii ha, wholeRule,
    any_isUppercase_of_ascii ha]

theorem ofAscii_smart (letters : List Char) : Word.ofAscii .smart letters =
    Word.ofAscii (if letters.any isAsciiUpper then .respect else .ignore) letters := by
  cases h : letters.any isAsciiUpper with
  | true => simp [Word.ofAscii, h]
  | false => simp [Word.ofAscii, h, map_asciiLower_of_any_eq_false h]

theorem ofUnicode_smart (letters : List Char) : Word.ofUnicode .smart letters =
    Word.ofUnicode (if letters.any foldsAway then .respect else .ignore) letters := by
  cases h : letters.any foldsAway with
  | true => simp [Word.ofUnicode, h]
  | false => simp [Word.ofUnicode, h, map_fold_of_any_eq_false h]

/-- Under the smart rule a word is what it is under the rule that it decides for. -/
theorem ofTyped_smart (text : List Char) :
    Word.ofTyped .smart text = Word.ofTyped (ownRule text) text := by
  by_cases ha : Ascii text
  · simp only [Word.ofTyped, if_pos (all_isAscii.mpr ha), ofAscii_smart, ownRule,
      comparedLetters_of_ascii ha, any_foldsAway_of_ascii ha, any_unescape (p := isAsciiUpper) rfl]
  · simp only [Word.ofTyped, if_neg (mt all_isAscii.mp ha), ofUnicode_smart, ownRule,
      comparedLetters, any_unescape (p := foldsAway) rfl]

/-! ### Folding labels -/

theorem ownRule_eq_ignore_iff :
    ownRule text = .ignore ↔ (comparedLetters text).any foldsAway = false := by
  rw [ownRule]
  cases (comparedLetters text).any foldsAway <;> simp

/-- Letters of a word that decides to disregard case do not fold. -/
theorem any_letters_of_ignore (h : ownRule text = .ignore) :
    (Word.ofTyped .smart text).letters.any foldsAway = false := by
  rw [ownRule_eq_ignore_iff] at h
  by_cases ha : Ascii text
  · rw [comparedLetters_of_ascii ha] at h
    simp [Word.ofTyped, all_isAscii.mpr ha, Word.ofAscii, any_unescape (p := foldsAway) rfl, h]
  · rw [comparedLetters, if_neg (mt all_isAscii.mp ha)] at h
    simp [Word.ofTyped, mt all_isAscii.mp ha, Word.ofUnicode, any_unescape (p := foldsAway) rfl, h]

/-- The smart rule reads the letters that are read with case counted. It folds labels where the word
decides to disregard case. -/
theorem ofTyped_smart_eq_respect (text : List Char) : Word.ofTyped .smart text =
    { Word.ofTyped .respect text with folding := decide (ownRule text = .ignore) } := by
  have hfolding : decide (ownRule text = .ignore) = !(comparedLetters text).any foldsAway := by
    cases h : (comparedLetters text).any foldsAway <;> simp [ownRule, h]
  rw [hfolding]
  by_cases ha : Ascii text
  · rw [comparedLetters_of_ascii ha, any_foldsAway_of_ascii ha,
      ← any_unescape (p := isAsciiUpper) rfl]
    simp only [Word.ofTyped, if_pos (all_isAscii.mpr ha)]
    rfl
  · rw [comparedLetters, if_neg (mt all_isAscii.mp ha), ← any_unescape (p := foldsAway) rfl]
    simp only [Word.ofTyped, if_neg (mt all_isAscii.mp ha)]
    rfl

/-- A word whose letters do not fold fits no fewer labels when they are folded. -/
theorem fits_folding {w : Word} {l : Label} (hw : w.letters.any foldsAway = false)
    (hf : w.folding = false) (h : w.fits l = true) :
    ({ w with folding := true } : Word).fits l = true := by
  unfold Word.fits at h ⊢
  -- Letters of an ASCII label are compared as they are, those of another as the word sees them.
  split at h
  · rename_i hl
    simp only [hf, Bool.and_eq_true, List.isSublist_iff_sublist, Bool.false_eq_true, if_false,
      List.map_id'] at h
    have hsub := h.2.map asciiLower
    rw [map_asciiLower_of_any_foldsAway hw] at hsub
    simpa [hl, h.1] using hsub
  · rename_i hl
    have hsees : ∀ c, ({ w with folding := true } : Word).sees c = fold (w.sees c) := fun c => by
      simp [Word.sees, hf]
    have hsub := (List.isSublist_iff_sublist.mp h).map fold
    rw [map_fold_of_any_eq_false hw, List.map_map] at hsub
    rw [if_neg hl, List.isSublist_iff_sublist, List.map_congr_left fun c _ => hsees c]
    exact hsub

theorem folding_respect (text : List Char) : (Word.ofTyped .respect text).folding = false := by
  unfold Word.ofTyped
  split <;> rfl

/-- With case counted, a word that decides to disregard case fits fewer labels. -/
theorem fits_of_respect (hown : ownRule text = .ignore) (h : Fits label .respect text) :
    Fits label .ignore text := by
  have hletters := any_letters_of_ignore hown
  rw [ofTyped_smart_eq_respect] at hletters
  rw [Fits, ← hown, ← ofTyped_smart, ofTyped_smart_eq_respect, decide_eq_true hown]
  exact fits_folding hletters (folding_respect text) h

/-! ### Labels of small letters -/

/-- Holds ASCII characters alone, and none of their capital letters. -/
def Small (label : List Char) : Prop := ∀ c ∈ label, isAscii c = true ∧ isAsciiUpper c = false

instance (label : List Char) : Decidable (Small label) := List.decidableBAll _ label

/-- Folding leaves a label of small letters as it is. -/
theorem fits_small {w : Word} (hl : Small label) :
    w.fits (Label.ofText label) = (w.ascii && w.letters.isSublist label) := by
  have hlower : ∀ c ∈ label, (if w.folding then asciiLower c else c) = c := fun c hc => by
    simp [asciiLower, (hl c hc).2]
  rw [ofText_of_ascii fun c hc => (hl c hc).1, Word.fits, if_pos rfl,
    List.map_congr_left hlower, List.map_id']

theorem flatten_consWord (c : Char) (ws : List (List Char)) :
    (consWord c ws).flatten = c :: ws.flatten := by
  cases ws <;> rfl

/-- Of what has been typed, words leave out spaces between them. -/
theorem flatten_splitWords_sublist (escaped : Bool) (typed : List Char) :
    (splitWords escaped typed).flatten.Sublist typed := by
  induction typed generalizing escaped with
  | nil => exact List.Sublist.refl _
  | cons c cs ih =>
    rw [splitWords]
    split
    · exact (ih false).cons c
    · rw [flatten_consWord]
      exact (ih _).cons_cons c

/-- The characters of a word occur in their order in what has been typed. -/
theorem sublist_of_mem_wordTexts (h : text ∈ wordTexts typed) : text.Sublist typed :=
  (List.sublist_flatten_of_mem (List.mem_filter.mp h).1).trans
    (flatten_splitWords_sublist false typed)

theorem ascii_ofTyped_of_not (ha : ¬ Ascii text) : (Word.ofTyped rule text).ascii = false := by
  rw [Word.ofTyped, if_neg (mt all_isAscii.mp ha), ascii_ofUnicode]

/-- On a label of small letters, it makes no difference that words decide for themselves. -/
theorem fits_small_iff (hl : Small label) (hw : text ∈ wordTexts typed) :
    Fits label (ownRule text) text ↔ Fits label (wholeRule typed) text := by
  cases hcapital : typed.any isUppercase with
  | true =>
    -- Under both rules the word has the same letters, and folding does not touch the label.
    have hwhole : wholeRule typed = .respect := if_pos hcapital
    rw [hwhole, Fits, ← ofTyped_smart, ofTyped_smart_eq_respect, fits_small hl, Fits,
      fits_small hl]
  | false =>
    have hwhole : wholeRule typed = .ignore := if_neg (by simp [hcapital])
    -- No word has a capital letter, and one with characters beyond ASCII fits no such label.
    by_cases ha : Ascii text
    · have hnone : text.any isUppercase = false := List.any_eq_false.mpr fun c hc =>
        List.any_eq_false.mp hcapital c ((sublist_of_mem_wordTexts hw).subset hc)
      rw [hwhole, ownRule_of_ascii ha, wholeRule, hnone]
      rfl
    · simp [Fits, fits_small hl, ascii_ofTyped_of_not ha]

theorem all_builtin_small : Registry.builtin.candidates.all fun c =>
    c.label.toList.all fun x => isAscii x && !isAsciiUpper x := by
  decide

theorem small_builtin_label {c : Registry.Candidate} (h : c ∈ Registry.builtin.candidates) :
    Small c.label.toList := fun x hx => by
  simpa using List.all_eq_true.mp (List.all_eq_true.mp all_builtin_small c h) x hx

/-! ### The smart rule as it is meant -/

theorem ignoresCaseOf_wholeRule (typed : List Char) :
    (wholeRule typed).ignoresCaseOf typed = CaseRule.smart.ignoresCaseOf typed := by
  rw [wholeRule, CaseRule.ignoresCaseOf.eq_2]
  cases typed.any isUppercase <;> rfl

theorem smartAsMeant_of_ne (h : strategy ≠ .scattered) : SmartAsMeant strategy label typed := by
  cases strategy with
  | scattered => exact absurd rfl h
  | _ => simp only [SmartAsMeant, Policy.accepts, ignoresCaseOf_wholeRule]

theorem accepts_scattered_iff : Policy.accepts ⟨.scattered, rule⟩ label typed = true ↔
    ∀ w ∈ wordTexts typed, Fits label rule w := by
  have hwords : words rule typed = (wordTexts typed).map (Word.ofTyped rule) := rfl
  cases typed with
  | nil => simp [Policy.accepts, wordTexts, splitWords]
  | cons c cs => simp [Policy.accepts, scattered, hwords, Fits]

/-- Under the smart rule each word decides for itself. -/
theorem accepts_smart_iff : Policy.accepts ⟨.scattered, .smart⟩ label typed = true ↔
    ∀ w ∈ wordTexts typed, Fits label (ownRule w) w := by
  simp only [accepts_scattered_iff, Fits, ofTyped_smart]

theorem smartAsMeant_iff : SmartAsMeant .scattered label typed ↔
    ((∀ w ∈ wordTexts typed, Fits label (ownRule w) w) ↔
      ∀ w ∈ wordTexts typed, Fits label (wholeRule typed) w) := by
  rw [SmartAsMeant, Bool.eq_iff_iff, accepts_smart_iff, accepts_scattered_iff]

/-- What the words that decide as the whole text does leave open, the others settle. -/
theorem smartAsMeant_iff_others : SmartAsMeant .scattered label typed ↔
    ((∀ w ∈ wordTexts typed, ownRule w = wholeRule typed → Fits label (wholeRule typed) w) →
      ((∀ w ∈ wordTexts typed, ownRule w ≠ wholeRule typed → Fits label (ownRule w) w) ↔
        ∀ w ∈ wordTexts typed, ownRule w ≠ wholeRule typed → Fits label (wholeRule typed) w)) := by
  have halves (fits : List Char → Prop) : (∀ w ∈ wordTexts typed, fits w) ↔
      (∀ w ∈ wordTexts typed, ownRule w = wholeRule typed → fits w) ∧
        ∀ w ∈ wordTexts typed, ownRule w ≠ wholeRule typed → fits w := by
    constructor
    · exact fun h => ⟨fun w hw _ => h w hw, fun w hw _ => h w hw⟩
    · intro ⟨hsame, hothers⟩ w hw
      by_cases heq : ownRule w = wholeRule typed
      · exact hsame w hw heq
      · exact hothers w hw heq
  have hsame : (∀ w ∈ wordTexts typed, ownRule w = wholeRule typed → Fits label (ownRule w) w) ↔
      ∀ w ∈ wordTexts typed, ownRule w = wholeRule typed → Fits label (wholeRule typed) w :=
    forall₂_congr fun w _ => forall_congr' fun heq => by rw [heq]
  rw [smartAsMeant_iff, halves fun w => Fits label (ownRule w) w,
    halves fun w => Fits label (wholeRule typed) w, hsame]
  exact and_congr_right_iff

/-- What is accepted with case counted is accepted under the smart rule. -/
theorem accepts_smart_of_respect (h : Policy.accepts ⟨.scattered, .respect⟩ label typed = true) :
    Policy.accepts ⟨.scattered, .smart⟩ label typed = true := by
  refine accepts_smart_iff.mpr fun w hw => ?_
  have hfits := accepts_scattered_iff.mp h w hw
  obtain hown | hown : ownRule w = .respect ∨ ownRule w = .ignore := by
    rw [ownRule]
    split <;> simp
  · rwa [hown]
  · rw [hown]
    exact fits_of_respect hown hfits

theorem smartAsMeant_of_small (hl : Small label) : SmartAsMeant strategy label typed := by
  by_cases h : strategy = .scattered
  · obtain rfl := h
    exact smartAsMeant_iff.mpr (forall₂_congr fun w hw => fits_small_iff hl hw)
  · exact smartAsMeant_of_ne h

theorem smartAsMeant_of_own (h : ∀ w ∈ wordTexts typed, ownRule w = wholeRule typed) :
    SmartAsMeant .scattered label typed :=
  smartAsMeant_iff.mpr (forall₂_congr fun w hw => by rw [h w hw])

/-- The known options are offered under the smart rule as it is meant. -/
theorem candidatesFor_smart (strategy : Strategy) (typed : String) :
    Registry.builtin.candidatesFor ⟨strategy, .smart⟩ typed =
      Registry.builtin.candidatesFor ⟨strategy, wholeRule typed.toList⟩ typed :=
  List.filter_congr fun _ hc => smartAsMeant_of_small (small_builtin_label hc)

/-- At the front and within a label, the smart rule is as it is meant. For scattered letters, each
word decides for itself, an ASCII word as if it was typed alone, and no less is accepted than with
case counted. So the rule is as it is meant if and only if, where the words fit that decide as the
whole text does, the others make no difference. There are none if all words decide so, and they make
none on a label of small letters. -/
theorem smart_accepts (label typed : List Char) :
    (∀ strategy, strategy ≠ .scattered → SmartAsMeant strategy label typed) ∧
    (Policy.accepts ⟨.scattered, .smart⟩ label typed = true ↔
      ∀ w ∈ wordTexts typed, Fits label (ownRule w) w) ∧
    (∀ w ∈ wordTexts typed, Ascii w → ownRule w = wholeRule w) ∧
    (Policy.accepts ⟨.scattered, .respect⟩ label typed = true →
      Policy.accepts ⟨.scattered, .smart⟩ label typed = true) ∧
    (SmartAsMeant .scattered label typed ↔
      ((∀ w ∈ wordTexts typed, ownRule w = wholeRule typed → Fits label (wholeRule typed) w) →
        ((∀ w ∈ wordTexts typed, ownRule w ≠ wholeRule typed → Fits label (ownRule w) w) ↔
          ∀ w ∈ wordTexts typed, ownRule w ≠ wholeRule typed →
            Fits label (wholeRule typed) w))) ∧
    ((∀ w ∈ wordTexts typed, ownRule w = wholeRule typed) →
      SmartAsMeant .scattered label typed) ∧
    (Small label → SmartAsMeant .scattered label typed) :=
  ⟨fun _ => smartAsMeant_of_ne, accepts_smart_iff, fun _ _ => ownRule_of_ascii,
    accepts_smart_of_respect, smartAsMeant_iff_others, smartAsMeant_of_own, smartAsMeant_of_small⟩

/-- Two words, one of them with a capital letter. -/
def twoWords : List Char := "foo Bar".toList

/-- At the front case counts for two words with a capital letter, scattered letters of the same
label fit them as they stand, a label of small letters does not fit them, and a label of capital
letters fits two words without any. -/
theorem smart_accepts_twoWords :
    SmartAsMeant .front "FOOBar".toList twoWords ∧
    Policy.accepts ⟨.scattered, .smart⟩ "fooBar".toList twoWords = true ∧
    SmartAsMeant .scattered "FOOBAR".toList "foo bar".toList ∧
    SmartAsMeant .scattered "foobar".toList twoWords := by
  have own : ∀ w ∈ wordTexts "foo bar".toList, ownRule w = wholeRule "foo bar".toList := by decide
  refine ⟨?_, ?_, ?_, ?_⟩
  · exact (smart_accepts _ _).1 .front (by decide)
  · exact (smart_accepts _ _).2.2.2.1 rfl
  · exact (smart_accepts _ _).2.2.2.2.2.1 own
  · exact (smart_accepts _ _).2.2.2.2.2.2 (by decide)

/-- Where another word brings the capital letter, a word without one disregards case. And a final
sigma, which is no capital letter, makes case count. -/
theorem smart_notAsMeant :
    (twoWords.any isUppercase = true ∧
      Policy.accepts ⟨.scattered, .smart⟩ "FOOBar".toList twoWords = true ∧
      Policy.accepts ⟨.scattered, .respect⟩ "FOOBar".toList twoWords = false) ∧
    ("ς".toList.any isUppercase = false ∧
      Policy.accepts ⟨.scattered, .smart⟩ "σ".toList "ς".toList = false ∧
      Policy.accepts ⟨.scattered, .ignore⟩ "σ".toList "ς".toList = true) :=
  ⟨⟨rfl, rfl, rfl⟩, rfl, rfl, rfl⟩

end ModelineAssist.Matching
