import ModelineAssist.Modeline.Token
import ModelineAssist.Proofs.Text.Columns

/-!
The tokens of a text that is put together. Where no stretch of solid characters crosses a border,
the tokens of the whole are those of its parts; a stretch between white space is one token. Where
the text starts does not matter for what the tokens are.
-/
namespace ModelineAssist.Modeline
open Text

variable {n : Nat} {a b front stretch rest : List Char} {t : Token}

/-- Ends in white space, or is empty. -/
def EndsLoose (a : List Char) : Prop := ∀ c ∈ a.getLast?, isSolid c = false

/-- Starts with white space, or is empty. -/
def StartsLoose (b : List Char) : Prop := ∀ c ∈ b.head?, isSolid c = false

/-- Holds no white space. -/
def Solid (a : List Char) : Prop := ∀ c ∈ a, isSolid c = true

instance (a : List Char) : Decidable (EndsLoose a) :=
  Option.decidableForallMem a.getLast?

instance (b : List Char) : Decidable (StartsLoose b) :=
  Option.decidableForallMem b.head?

instance (a : List Char) : Decidable (Solid a) := List.decidableBAll (isSolid · = true) a

theorem solid_nil : Solid [] := fun _ hc => absurd hc List.not_mem_nil

theorem solid_append : Solid (a ++ b) ↔ Solid a ∧ Solid b := List.forall_mem_append

/-- No stretch of solid characters crosses the border between two texts. -/
def Apart (a b : List Char) : Prop := EndsLoose a ∨ StartsLoose b

theorem Apart.of_cons {c d : Char} {cs : List Char} (h : Apart (c :: d :: cs) b) :
    Apart (d :: cs) b := by
  rcases h with h | h
  · exact .inl (by simpa [EndsLoose] using h)
  · exact .inr h

/-! ### Where tokens lie -/

theorem mem_consSolid {c : Char} {ts : List Token} (h : t ∈ consSolid n c ts) :
    t.start = n ∨ t ∈ ts := by
  cases ts with
  | nil =>
    simp only [consSolid, List.mem_singleton] at h
    exact .inl (by rw [h])
  | cons u us =>
    by_cases hu : u.start = n + width c
    · rw [consSolid, if_pos hu] at h
      rcases List.mem_cons.mp h with rfl | h
      · exact .inl rfl
      · exact .inr (List.mem_cons_of_mem _ h)
    · rw [consSolid, if_neg hu] at h
      rcases List.mem_cons.mp h with rfl | h
      · exact .inl rfl
      · exact .inr h

/-- Tokens start where the text does or behind that. -/
theorem le_start_of_mem_tokens (h : t ∈ tokens n a) : n ≤ t.start := by
  induction a generalizing n with
  | nil => simp [tokens] at h
  | cons c cs ih =>
    rw [tokens] at h
    split at h
    · rcases mem_consSolid h with h | h
      · exact Nat.le_of_eq h.symm
      · exact Nat.le_trans (Nat.le_add_right _ _) (ih h)
    · exact Nat.le_trans (Nat.le_add_right _ _) (ih h)

/-- Behind white space tokens start later than the text. -/
theorem lt_start_of_mem_tokens (hb : StartsLoose b) (h : t ∈ tokens n b) : n < t.start := by
  cases b with
  | nil => simp [tokens] at h
  | cons c cs =>
    have hc : isSolid c = false := hb c (by simp)
    simp only [tokens, hc, Bool.false_eq_true, if_false] at h
    exact Nat.lt_of_lt_of_le (Nat.lt_add_of_pos_right (width_pos c)) (le_start_of_mem_tokens h)

theorem stop_of_mem_consSolid {c : Char} {ts : List Token} (h : t ∈ consSolid n c ts) :
    t.stop = n + width c ∨ ∃ u ∈ ts, t.stop = u.stop := by
  cases ts with
  | nil =>
    simp only [consSolid, List.mem_singleton] at h
    exact .inl (by simp [h, Token.stop])
  | cons u us =>
    by_cases hu : u.start = n + width c
    · rw [consSolid, if_pos hu] at h
      rcases List.mem_cons.mp h with rfl | h
      · exact .inr ⟨u, List.mem_cons_self, by simp [Token.stop, hu, Nat.add_assoc]⟩
      · exact .inr ⟨t, List.mem_cons_of_mem _ h, rfl⟩
    · rw [consSolid, if_neg hu] at h
      rcases List.mem_cons.mp h with rfl | h
      · exact .inl (by simp [Token.stop])
      · exact .inr ⟨t, h, rfl⟩

/-- In front of white space tokens stop before the text does. -/
theorem stop_lt_of_mem_tokens (ha : EndsLoose a) (h : t ∈ tokens n a) : t.stop < n + columns a := by
  induction a generalizing n t with
  | nil => simp [tokens] at h
  | cons c cs ih =>
    cases cs with
    | nil =>
      have hc : isSolid c = false := ha c rfl
      simp [tokens, hc] at h
    | cons d ds =>
      have hds : EndsLoose (d :: ds) := by simpa [EndsLoose] using ha
      have hpos := columns_pos (List.cons_ne_nil d ds)
      rw [columns_cons, ← Nat.add_assoc]
      rw [tokens] at h
      split at h
      · rcases stop_of_mem_consSolid h with h | ⟨u, hu, h⟩
        · omega
        · rw [h]
          exact ih hds hu
      · exact ih hds h

/-! ### Tokens of parts -/

theorem consSolid_append {c : Char} {ts us : List Token} (h : ts ≠ []) :
    consSolid n c (ts ++ us) = consSolid n c ts ++ us := by
  cases ts with
  | nil => exact absurd rfl h
  | cons t ts =>
    simp only [List.cons_append, consSolid]
    split <;> rfl

/-- A solid character is a token of its own if no token starts right behind it. -/
theorem consSolid_of_lt {c : Char} {ts : List Token} (h : ∀ t ∈ ts, n + width c < t.start) :
    consSolid n c ts = ⟨n, [c]⟩ :: ts := by
  cases ts with
  | nil => rfl
  | cons t ts => rw [consSolid, if_neg (Nat.ne_of_gt (h t List.mem_cons_self))]

/-- The tokens of a text whose parts are apart are those of the parts. -/
theorem tokens_append (h : Apart a b) :
    tokens n (a ++ b) = tokens n a ++ tokens (n + columns a) b := by
  induction a generalizing n with
  | nil => rfl
  | cons c cs ih =>
    have hbehind : tokens (n + width c) (cs ++ b) =
        tokens (n + width c) cs ++ tokens (n + width c + columns cs) b := by
      cases cs with
      | nil => rfl
      | cons d ds => exact ih h.of_cons
    simp only [List.cons_append, tokens, hbehind, columns_cons, ← Nat.add_assoc]
    cases hc : isSolid c with
    | false => rfl
    | true =>
      simp only [if_true]
      by_cases hcs : tokens (n + width c) cs = []
      · -- The first token behind the border does not touch the character in front of it.
        have hfar : ∀ t ∈ tokens (n + width c + columns cs) b, n + width c < t.start := by
          intro t ht
          cases cs with
          | cons d ds =>
            have := le_start_of_mem_tokens ht
            have := columns_pos (List.cons_ne_nil d ds)
            omega
          | nil =>
            rcases h with h | h
            · exact absurd (h c rfl) (by simp [hc])
            · exact lt_start_of_mem_tokens h ht
        rw [hcs, List.nil_append, consSolid_of_lt hfar]
        rfl
      · exact consSolid_append hcs

/-- A stretch of solid characters is one token. -/
theorem tokens_solid (hs : Solid a) (hne : a ≠ []) : tokens n a = [⟨n, a⟩] := by
  induction a generalizing n with
  | nil => exact absurd rfl hne
  | cons c cs ih =>
    have hc : isSolid c = true := hs c List.mem_cons_self
    simp only [tokens, hc, if_true]
    cases cs with
    | nil => rfl
    | cons d ds =>
      rw [ih (fun x hx => hs x (List.mem_cons_of_mem _ hx)) (List.cons_ne_nil d ds)]
      simp [consSolid]

/-- The pieces that white space cuts a text into. -/
def pieces (a : List Char) : List (List Char) := (a.splitOnP isWhiteSpace).filter (· ≠ [])

theorem map_text_tokens_solid (n : Nat) (hs : Solid a) :
    (tokens n a).map Token.text = [a].filter (· ≠ []) := by
  by_cases hne : a = []
  · subst hne; rfl
  · simp [tokens_solid hs hne, hne]

/-- The tokens of a text are its pieces, wherever it starts. -/
theorem map_text_tokens (n : Nat) (a : List Char) : (tokens n a).map Token.text = pieces a := by
  -- By induction on the length: the first stretch is one piece, and white space ends it.
  induction h : a.length using Nat.strongRecOn generalizing n a with
  | ind k ih =>
    have hsolid : Solid (a.takeWhile isSolid) := List.all_eq_true.mp List.all_takeWhile
    have hplain : ∀ c ∈ a.takeWhile isSolid, isWhiteSpace c = false := fun c hc => by
      simpa [isSolid] using hsolid c hc
    have ha : a.takeWhile isSolid ++ a.dropWhile isSolid = a := List.takeWhile_append_dropWhile
    cases hd : a.dropWhile isSolid with
    | nil =>
      rw [hd, List.append_nil] at ha
      rw [← ha, map_text_tokens_solid n hsolid, pieces, List.splitOnP_eq_singleton hplain]
    | cons c cs =>
      have hc : isSolid c = false := by
        have := List.head?_dropWhile_not isSolid a
        simpa [hd] using this
      have hw : isWhiteSpace c = true := by simpa [isSolid] using hc
      have hloose : StartsLoose (c :: cs) := by
        rintro d hd
        obtain rfl : c = d := Option.some.inj hd
        exact hc
      have hlt : cs.length < k := by
        have := congrArg List.length ha
        rw [hd] at this
        simp at this
        omega
      rw [hd] at ha
      have hpieces : pieces (a.takeWhile isSolid ++ c :: cs) =
          [a.takeWhile isSolid].filter (· ≠ []) ++ pieces cs := by
        rw [pieces, List.splitOnP_append_cons_of_forall_mem hplain c hw, pieces,
          ← List.filter_append, List.singleton_append]
      have hcs : (tokens (n + columns (a.takeWhile isSolid)) (c :: cs)).map Token.text =
          pieces cs := by
        simp only [tokens, hc]
        exact ih _ hlt _ cs rfl
      rw [← ha, tokens_append (.inr hloose), List.map_append, map_text_tokens_solid n hsolid, hcs,
        hpieces]

end ModelineAssist.Modeline
