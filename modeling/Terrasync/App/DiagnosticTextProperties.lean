import Terrasync.App.Diagnostics

/-! Sanitizing a diagnostic text twice. A sanitized text is a row of settled tokens, cut off
at a limit; only a cut right behind a blank makes a second pass change it. -/

set_option autoImplicit false

namespace Terrasync.App

namespace Text

theorem contains_iff {text key : Text} : text.contains key = true ↔ key <:+: text := by
  simp only [contains, List.any_eq_true, List.mem_tails, List.isPrefixOf_iff_prefix]
  constructor
  · rintro ⟨suffix, isSuffix, isPrefix⟩
    exact isPrefix.isInfix.trans isSuffix.isInfix
  · rintro ⟨front, back, rfl⟩
    refine ⟨key ++ back, ⟨front, ?_⟩, List.prefix_append key back⟩
    rw [List.append_assoc]

theorem byteTake_cuts (limit : Nat) (text : Text) : byteTake limit text <+: text := by
  induction text generalizing limit with
  | nil => exact List.prefix_refl _
  | cons character rest ih =>
      simp only [byteTake]
      split
      · exact (List.prefix_cons_inj character).mpr (ih _)
      · exact List.nil_prefix

theorem byteTake_length (limit : Nat) (text : Text) : (byteTake limit text).byteLength ≤ limit := by
  induction text generalizing limit with
  | nil => exact Nat.zero_le _
  | cons character rest ih =>
      simp only [byteTake]
      split
      · next fits =>
          have shorter := ih (limit - character.utf8Size)
          simp only [byteLength, List.map_cons, List.sum_cons] at shorter ⊢
          omega
      · exact Nat.zero_le _

theorem byteTake_of_le {limit : Nat} {text : Text} (fits : text.byteLength ≤ limit) :
    byteTake limit text = text := by
  induction text generalizing limit with
  | nil => rfl
  | cons character rest ih =>
      simp only [byteLength, List.map_cons, List.sum_cons] at fits
      rw [byteTake, if_pos (by omega), ih]
      simp only [byteLength]
      omega

theorem byteLength_mono {front text : Text} (isPrefix : front <+: text) :
    front.byteLength ≤ text.byteLength := by
  obtain ⟨back, rfl⟩ := isPrefix
  simp only [byteLength, List.map_append, List.sum_append]
  exact Nat.le_add_right _ _

theorem visible_plain (character : Char) : isControl (visible character) = false := by
  simp only [visible]
  split
  · decide
  · next plain => exact Bool.not_eq_true _ ▸ plain

theorem visible_whitespace {character : Char} (plain : isWhitespace character = false) :
    isWhitespace (visible character) = false := by
  simp only [visible]
  split
  · decide
  · exact plain

/-- A key found behind replacements was there before them. -/
theorem infix_of_replaced {replaced original : Char → Char} {mark : Char}
    (agree : ∀ character, replaced character = mark ∨ replaced character = original character)
    {key token : Text} (clean : mark ∉ key) (found : key <:+: token.map replaced) :
    key <:+: token.map original := by
  obtain ⟨front, back, split⟩ := found
  obtain ⟨left, right, rfl, leftMapped, -⟩ := List.map_eq_append_iff.mp split.symm
  obtain ⟨before, middle, rfl, -, rfl⟩ := List.map_eq_append_iff.mp leftMapped
  have same : middle.map replaced = middle.map original := by
    apply List.map_congr_left
    intro character member
    rcases agree character with marked | equal
    · exact absurd (List.mem_map.mpr ⟨character, member, marked⟩) clean
    · exact equal
  rw [same, List.map_append, List.map_append]
  exact ⟨before.map original, right.map original, rfl⟩

theorem contains_visible {token key : Text} (clean : '\ufffd' ∉ key)
    (found : contains (token.map visible) key = true) : contains token key = true := by
  rw [contains_iff] at found ⊢
  rw [← List.map_id token]
  apply infix_of_replaced _ clean found
  intro character
  simp only [visible]
  split
  · exact .inl rfl
  · exact .inr rfl

theorem isSecretKey_visible {token : Text} (found : isSecretKey (token.map visible) = true) :
    isSecretKey token = true := by
  simp only [isSecretKey, List.any_eq_true] at found ⊢
  obtain ⟨key, listed, found⟩ := found
  refine ⟨key, listed, ?_⟩
  rw [contains_iff, List.map_map] at found
  rw [contains_iff]
  have clean : '\ufffd' ∉ key := by
    have all : ∀ key ∈ secretKeys, '\ufffd' ∉ key := by decide
    exact all key listed
  apply infix_of_replaced _ clean found
  intro character
  simp only [Function.comp_apply, visible]
  split
  · exact .inl (by decide)
  · exact .inr rfl

/-- A token that a further pass leaves alone. -/
structure Settled (token : Text) : Prop where
  nonempty : token ≠ []
  unbroken : ∀ character ∈ token, isWhitespace character = false
  plain : ∀ character ∈ token, isControl character = false
  noAddress : contains token "://".toList = false
  noSecret : isSecretKey token = false

theorem Settled.redactToken {token : Text} (settled : Settled token) : redactToken token = token := by
  rw [App.redactToken, settled.noAddress, settled.noSecret, Bool.or_self, if_neg Bool.false_ne_true]
  have same : ∀ character ∈ token, visible character = id character := by
    intro character member
    rw [visible, settled.plain character member, if_neg Bool.false_ne_true]
    rfl
  rw [List.map_congr_left same, List.map_id]

theorem isSecretKey_mono {front token : Text} (isPrefix : front <+: token) (secret : isSecretKey front = true) :
    isSecretKey token = true := by
  simp only [isSecretKey, List.any_eq_true] at secret ⊢
  obtain ⟨key, listed, found⟩ := secret
  refine ⟨key, listed, ?_⟩
  rw [contains_iff] at found ⊢
  exact found.trans (isPrefix.map _).isInfix

theorem Settled.cut {front token : Text} (settled : Settled token) (isPrefix : front <+: token)
    (nonempty : front ≠ []) : Settled front where
  nonempty := nonempty
  unbroken := fun character member => settled.unbroken character (isPrefix.subset member)
  plain := fun character member => settled.plain character (isPrefix.subset member)
  noAddress := by
    rw [Bool.eq_false_iff]
    intro found
    rw [contains_iff] at found
    exact absurd (contains_iff.mpr (found.trans isPrefix.isInfix)) (Bool.eq_false_iff.mp settled.noAddress)
  noSecret := by
    rw [Bool.eq_false_iff]
    intro secret
    exact absurd (isSecretKey_mono isPrefix secret) (Bool.eq_false_iff.mp settled.noSecret)

theorem redactToken_settled {token : Text} (nonempty : token ≠ [])
    (unbroken : ∀ character ∈ token, isWhitespace character = false) : Settled (App.redactToken token) := by
  rw [App.redactToken]
  split
  · have unbroken : ("[redacted]".toList.all fun character => !isWhitespace character) = true := by decide
    have plain : ("[redacted]".toList.all fun character => !isControl character) = true := by decide
    refine ⟨by decide, fun character member => ?_, fun character member => ?_, by decide, by decide⟩
    · exact Bool.not_eq_true' _ ▸ List.all_eq_true.mp unbroken character member
    · exact Bool.not_eq_true' _ ▸ List.all_eq_true.mp plain character member
  · next harmless =>
      simp only [Bool.or_eq_true, not_or, Bool.not_eq_true] at harmless
      constructor
      · rw [ne_eq, List.map_eq_nil_iff]
        exact nonempty
      · intro character member
        obtain ⟨source, listed, rfl⟩ := List.mem_map.mp member
        exact visible_whitespace (unbroken source listed)
      · intro character member
        obtain ⟨source, listed, rfl⟩ := List.mem_map.mp member
        exact visible_plain source
      · rw [Bool.eq_false_iff]
        intro found
        exact absurd (contains_visible (by decide) found) (Bool.eq_false_iff.mp harmless.1)
      · rw [Bool.eq_false_iff]
        intro secret
        exact absurd (isSecretKey_visible secret) (Bool.eq_false_iff.mp harmless.2)

/-! Rows of settled tokens -/

def joined (tokens : List Text) : Text := tokens.foldl appendToken []

theorem joined_append (front back : List Text) : joined (front ++ back) = back.foldl appendToken (joined front) :=
  List.foldl_append

theorem joined_snoc (tokens : List Text) (token : Text) :
    joined (tokens ++ [token]) = appendToken (joined tokens) token := joined_append tokens [token]

theorem appendToken_extends (result token : Text) : result <+: appendToken result token := by
  simp only [appendToken]
  split
  · next empty =>
      rw [empty]
      exact List.nil_prefix
  · exact (List.prefix_append result [' ']).trans (List.prefix_append _ token)

theorem foldl_appendToken_extends (result : Text) (tokens : List Text) :
    result <+: tokens.foldl appendToken result := by
  induction tokens generalizing result with
  | nil => exact List.prefix_refl _
  | cons token rest ih => exact (appendToken_extends result token).trans (ih _)

theorem splitOnP_unbroken (text : Text) :
    ∀ token ∈ text.splitOnP isWhitespace, ∀ character ∈ token, isWhitespace character = false := by
  induction text with
  | nil => exact List.forall_mem_singleton.mpr fun _ member => absurd member List.not_mem_nil
  | cons character rest ih =>
      rw [List.splitOnP_cons_eq_if_modifyHead]
      split
      · exact List.forall_mem_cons.mpr ⟨fun _ member => absurd member List.not_mem_nil, ih⟩
      · next plain =>
          obtain ⟨head, tail, parts⟩ := List.exists_cons_of_ne_nil (List.splitOnP_ne_nil isWhitespace rest)
          rw [parts] at ih ⊢
          obtain ⟨first, others⟩ := List.forall_mem_cons.mp ih
          exact List.forall_mem_cons.mpr
            ⟨List.forall_mem_cons.mpr ⟨Bool.eq_false_iff.mpr plain, first⟩, others⟩

theorem splitWhitespace_mem (text : Text) : ∀ token ∈ text.splitWhitespace,
    token ≠ [] ∧ ∀ character ∈ token, isWhitespace character = false := by
  intro token member
  simp only [splitWhitespace, List.mem_filter, decide_eq_true_eq] at member
  exact ⟨member.2, splitOnP_unbroken text token member.1⟩

theorem splitWhitespace_append (front back : Text) :
    splitWhitespace (front ++ ' ' :: back) = splitWhitespace front ++ splitWhitespace back := by
  rw [splitWhitespace, List.splitOnP_append_cons front back (by decide), List.filter_append]
  rfl

theorem Settled.splitWhitespace {token : Text} (settled : Settled token) :
    Text.splitWhitespace token = [token] := by
  rw [Text.splitWhitespace, List.splitOnP_eq_singleton settled.unbroken]
  exact List.filter_cons_of_pos (decide_eq_true settled.nonempty)

theorem splitWhitespace_appendToken (result : Text) {token : Text} (settled : Settled token) :
    Text.splitWhitespace (appendToken result token) = Text.splitWhitespace result ++ [token] := by
  simp only [appendToken]
  split
  · next empty =>
      rw [empty]
      exact settled.splitWhitespace
  · rw [List.append_assoc, List.singleton_append, splitWhitespace_append, settled.splitWhitespace]

theorem splitWhitespace_joined {tokens : List Text} (settled : ∀ token ∈ tokens, Settled token) :
    Text.splitWhitespace (joined tokens) = tokens := by
  induction tokens using List.reverseRecOn with
  | nil => rfl
  | append_singleton front token ih =>
      obtain ⟨before, last⟩ := List.forall_mem_append.mp settled
      rw [joined_snoc, splitWhitespace_appendToken _ (last token List.mem_cons_self), ih before]

/-- One pass always yields a row of settled tokens. -/
theorem redactTokens_joined {tokens : List Text} (unbroken : ∀ token ∈ tokens, token ≠ [] ∧
      ∀ character ∈ token, isWhitespace character = false)
    {before : List Text} (settled : ∀ token ∈ before, Settled token) :
    ∃ after : List Text, (∀ token ∈ after, Settled token) ∧
      redactTokens (joined before) tokens = joined after := by
  induction tokens generalizing before with
  | nil => exact ⟨before, settled, rfl⟩
  | cons token rest ih =>
      obtain ⟨⟨nonempty, solid⟩, later⟩ := List.forall_mem_cons.mp unbroken
      have extended : ∀ token' ∈ before ++ [App.redactToken token], Settled token' :=
        List.forall_mem_append.mpr ⟨settled, List.forall_mem_singleton.mpr (redactToken_settled nonempty solid)⟩
      simp only [redactTokens, ← joined_snoc]
      split
      · exact ⟨_, extended, rfl⟩
      · exact ih later extended

/-- A row of settled tokens within the limit passes unchanged. -/
theorem redactTokens_settled {before tokens : List Text} (settled : ∀ token ∈ tokens, Settled token)
    (fits : (joined (before ++ tokens)).byteLength ≤ maxDiagnosticTextBytes) :
    redactTokens (joined before) tokens = joined (before ++ tokens) := by
  induction tokens generalizing before with
  | nil => rw [List.append_nil, redactTokens]
  | cons token rest ih =>
      obtain ⟨head, later⟩ := List.forall_mem_cons.mp settled
      have split : before ++ token :: rest = before ++ [token] ++ rest := by
        rw [List.append_assoc, List.singleton_append]
      have within : (joined (before ++ [token])).byteLength ≤ maxDiagnosticTextBytes := by
        rw [split, joined_append] at fits
        exact (byteLength_mono (foldl_appendToken_extends _ rest)).trans fits
      simp only [redactTokens, head.redactToken, head.noSecret, ← joined_snoc, Bool.false_or,
        decide_eq_true_eq]
      rw [if_neg (Nat.not_lt.mpr within), ih later (split ▸ fits), split]

/-- Cutting a row of settled tokens leaves such a row, or a text that ends in a blank. -/
theorem joined_cut {tokens : List Text} (settled : ∀ token ∈ tokens, Settled token) {front : Text}
    (isPrefix : front <+: joined tokens) :
    front.getLast? = some ' ' ∨ ∃ kept : List Text, (∀ token ∈ kept, Settled token) ∧ front = joined kept := by
  induction tokens using List.reverseRecOn with
  | nil =>
      cases List.prefix_nil.mp isPrefix
      exact .inr ⟨[], fun _ member => absurd member List.not_mem_nil, rfl⟩
  | append_singleton before token ih =>
      obtain ⟨earlier, last⟩ := List.forall_mem_append.mp settled
      have solid := last token List.mem_cons_self
      rw [joined_snoc, appendToken] at isPrefix
      rcases List.prefix_or_prefix_of_prefix isPrefix (List.prefix_append _ token) with inside | ⟨part, rfl⟩
      · split at inside
        · next empty => exact ih earlier (empty ▸ inside)
        · rcases List.prefix_concat_iff.mp inside with blank | shorter
          · rw [blank]
            exact .inl List.getLast?_concat
          · exact ih earlier shorter
      · have cut := (List.prefix_append_right_inj _).mp isPrefix
        by_cases nothing : part = []
        · rw [nothing, List.append_nil]
          split
          · exact .inr ⟨[], fun _ member => absurd member List.not_mem_nil, by assumption⟩
          · exact .inl List.getLast?_concat
        · refine .inr ⟨before ++ [part], ?_, ?_⟩
          · exact List.forall_mem_append.mpr ⟨earlier, List.forall_mem_singleton.mpr (solid.cut cut nothing)⟩
          · rw [joined_snoc, appendToken]

theorem safeDiagnosticText_joined {tokens : List Text} (settled : ∀ token ∈ tokens, Settled token)
    (fits : (joined tokens).byteLength ≤ maxDiagnosticTextBytes) :
    safeDiagnosticText (joined tokens) = joined tokens := by
  have passed := @redactTokens_settled [] _ settled fits
  rw [List.nil_append] at passed
  rw [safeDiagnosticText, byteTake_of_le fits, splitWhitespace_joined settled]
  exact (congrArg (byteTake maxDiagnosticTextBytes) passed).trans (byteTake_of_le fits)

/-- What one pass yields is a cut of a row of settled tokens. -/
theorem safeDiagnosticText_cut (text : Text) : ∃ tokens : List Text, (∀ token ∈ tokens, Settled token) ∧
    safeDiagnosticText text <+: joined tokens := by
  obtain ⟨tokens, settled, row⟩ := @redactTokens_joined _
    (splitWhitespace_mem (byteTake maxDiagnosticTextBytes text)) []
    fun _ member => absurd member List.not_mem_nil
  refine ⟨tokens, settled, ?_⟩
  rw [← row]
  exact byteTake_cuts _ _

/-- A sanitized text, further cut or not, is stable unless it ends in a blank. -/
theorem safeDiagnosticText_stable {text front : Text} (isPrefix : front <+: safeDiagnosticText text)
    (noBlank : front.getLast? ≠ some ' ') : safeDiagnosticText front = front := by
  obtain ⟨tokens, settled, cut⟩ := safeDiagnosticText_cut text
  have fits := (byteLength_mono isPrefix).trans (byteTake_length _ _)
  rcases joined_cut settled (isPrefix.trans cut) with blank | ⟨kept, solid, row⟩
  · exact absurd blank noBlank
  · rw [row] at fits ⊢
    exact safeDiagnosticText_joined solid fits

theorem safeDiagnosticLabel_stable {text : Text} (noBlank : (safeDiagnosticLabel text).getLast? ≠ some ' ') :
    safeDiagnosticLabel (safeDiagnosticLabel text) = safeDiagnosticLabel text := by
  have settled := safeDiagnosticText_stable (byteTake_cuts maxDiagnosticLabelBytes (safeDiagnosticText text)) noBlank
  have label : safeDiagnosticLabel (safeDiagnosticLabel text) =
      byteTake maxDiagnosticLabelBytes (safeDiagnosticText (safeDiagnosticLabel text)) := rfl
  rw [label]
  exact (congrArg (byteTake maxDiagnosticLabelBytes) settled).trans (byteTake_of_le (byteTake_length _ _))

end Text

/-- No text an enqueue call records was cut off right behind a blank. -/
def EndsCleanly (origin code message : Text) (path : Option Text) : Prop :=
  (safeDiagnosticLabel origin).getLast? ≠ some ' ' ∧ (safeDiagnosticLabel code).getLast? ≠ some ' ' ∧
    (safeDiagnosticText message).getLast? ≠ some ' ' ∧
    ∀ text ∈ path, (safeDiagnosticText text).getLast? ≠ some ' '

instance (origin code message : Text) (path : Option Text) : Decidable (EndsCleanly origin code message path) :=
  inferInstanceAs (Decidable (_ ∧ _))

/-- Sanitizing a recorded event again changes nothing. -/
theorem DiagnosticOutbox.event_sanitize (digest : Text → Text) (outbox : DiagnosticOutbox)
    {origin code message : Text} {path : Option Text} (clean : EndsCleanly origin code message path) :
    (outbox.event digest origin code message path).sanitize = outbox.event digest origin code message path := by
  obtain ⟨originClean, codeClean, messageClean, pathClean⟩ := clean
  have path' : (path.map safeDiagnosticText).map safeDiagnosticText = path.map safeDiagnosticText := by
    cases path with
    | none => rfl
    | some text => exact congrArg some (Text.safeDiagnosticText_stable List.prefix_rfl (pathClean text rfl))
  simp only [DiagnosticEvent.sanitize, DiagnosticOutbox.event, Text.safeDiagnosticLabel_stable originClean,
    Text.safeDiagnosticLabel_stable codeClean, Text.safeDiagnosticText_stable List.prefix_rfl messageClean, path']

end Terrasync.App
