import Terrasync.App.DiagnosticTextProperties

/-! What a sanitized text shows: the row of its rewritten tokens up to the first secret one,
cut off at the limit. The cut in front of the rewriting can split a secret token, and the cut
behind it can leave a blank at the end. -/

set_option autoImplicit false

namespace Terrasync.App

/-! ### The row behind a sanitized text -/

/-- The tokens up to the first secret one, which is the last. -/
def upToSecret : List Text → List Text
  | [] => []
  | token :: rest => if isSecretKey token then [token] else token :: upToSecret rest

def shownTokens (text : Text) : List Text := (upToSecret text.splitWhitespace).map redactToken

/-- The tokens that `safe_diagnostic_text` writes for a text. -/
def writtenTokens (text : Text) : List Text := shownTokens (text.byteTake maxDiagnosticTextBytes)

/-- A limit that falls between two tokens: there is room for the blank that separates them, but
not for the first character of the second one. -/
def CutsAtBlank (limit : Nat) (tokens : List Text) : Prop :=
  ∃ before character rest after, tokens = before ++ (character :: rest) :: after ∧ before ≠ [] ∧
    (Text.joined before).byteLength < limit ∧
    limit < (Text.joined before).byteLength + 1 + character.utf8Size

/-- The first secret token of a text, with what is before and behind it. -/
structure FirstSecret (head secret tail : Text) : Prop where
  separated : ∀ character ∈ head.getLast?, Text.isWhitespace character = true
  ended : ∀ character ∈ tail.head?, Text.isWhitespace character = true
  unbroken : ∀ character ∈ secret, Text.isWhitespace character = false
  secret : isSecretKey secret = true
  first : ∀ token ∈ head.splitWhitespace, isSecretKey token = false

/-- The bytes left for the stand-in of one more token. -/
def roomFor (shown : Text) : Nat :=
  maxDiagnosticTextBytes - if shown = [] then 0 else shown.byteLength + 1

/-- What the limit leaves of a secret token is not shown: it is still secret, it is an address,
there is no room for it, or it reads like its stand-in. -/
def HidesCut (head secret : Text) : Prop :=
  let part := secret.byteTake (maxDiagnosticTextBytes - head.byteLength)
  isSecretKey part = true ∨ part.contains "://".toList = true ∨
    Text.byteTake (roomFor (Text.joined (shownTokens head))) (part.map Text.visible) <+: "[redacted]".toList

def isSensitive (token : Text) : Bool := token.contains "://".toList || isSecretKey token

/-- Two rows of tokens that differ inside sensitive tokens, or behind secret ones, only. -/
inductive Alike : List Text → List Text → Prop where
  | done : Alike [] []
  | same (token : Text) {first second : List Text} : Alike first second → Alike (token :: first) (token :: second)
  | sensitive {token other : Text} {first second : List Text} : isSensitive token = true →
      isSensitive other = true → Alike first second → Alike (token :: first) (other :: second)
  | behind {token other : Text} (first second : List Text) : isSecretKey token = true →
      isSecretKey other = true → Alike (token :: first) (other :: second)

/-- Where only one of two sensitive tokens is secret, nothing that follows the other is shown. -/
def StopsAlike (shown : Text) : List Text → List Text → Prop
  | token :: first, other :: second =>
      let shown := appendToken shown (redactToken token)
      if isSecretKey token = true then
        isSecretKey other = true ∨ second = [] ∨ maxDiagnosticTextBytes ≤ shown.byteLength
      else if isSecretKey other = true then first = [] ∨ maxDiagnosticTextBytes ≤ shown.byteLength
      else StopsAlike shown first second
  | [], _ => True
  | _, [] => True

namespace Text

@[simp] theorem byteLength_nil : byteLength [] = 0 := rfl

@[simp] theorem byteLength_cons (character : Char) (text : Text) :
    byteLength (character :: text) = character.utf8Size + byteLength text := by
  simp only [byteLength, List.map_cons, List.sum_cons]

@[simp] theorem byteLength_append (front back : Text) :
    byteLength (front ++ back) = byteLength front + byteLength back := by
  simp only [byteLength, List.map_append, List.sum_append]

@[simp] theorem byteLength_blank : byteLength [' '] = 1 := by decide

theorem byteTake_zero (text : Text) : byteTake 0 text = [] := by
  cases text with
  | nil => rfl
  | cons character rest => rw [byteTake, if_neg (Nat.not_le_of_lt (Char.utf8Size_pos character))]

/-- A limit inside the front never reaches the back. -/
theorem byteTake_append_left {limit : Nat} {front : Text} (back : Text) (inside : limit ≤ front.byteLength) :
    byteTake limit (front ++ back) = byteTake limit front := by
  induction front generalizing limit with
  | nil =>
      rw [Nat.le_zero.mp inside, byteTake_zero, byteTake_zero]
  | cons character rest ih =>
      rw [byteLength_cons] at inside
      rw [List.cons_append, byteTake, byteTake]
      split
      · rw [ih (by omega)]
      · rfl

/-- A front within the limit is taken whole. -/
theorem byteTake_append_right {limit : Nat} {front : Text} (back : Text) (fits : front.byteLength ≤ limit) :
    byteTake limit (front ++ back) = front ++ byteTake (limit - front.byteLength) back := by
  induction front generalizing limit with
  | nil => rfl
  | cons character rest ih =>
      rw [byteLength_cons] at fits
      rw [List.cons_append, byteTake, if_pos (by omega), ih (by omega), byteLength_cons, Nat.sub_sub]
      rfl

theorem byteTake_byteTake {small large : Nat} (below : small ≤ large) (text : Text) :
    byteTake small (byteTake large text) = byteTake small text := by
  induction text generalizing small large with
  | nil => rfl
  | cons character rest ih =>
      by_cases fits : character.utf8Size ≤ large
      · rw [byteTake, if_pos fits, byteTake, byteTake]
        split
        · rw [ih (by omega)]
        · rfl
      · have longer : byteTake large (character :: rest) = [] := by rw [byteTake, if_neg fits]
        rw [longer, byteTake, byteTake, if_neg (by omega)]

theorem splitWhitespace_nil : splitWhitespace [] = [] := rfl

theorem splitWhitespace_append_cons (front back : Text) {blank : Char} (whitespace : isWhitespace blank = true) :
    splitWhitespace (front ++ blank :: back) = splitWhitespace front ++ splitWhitespace back := by
  rw [splitWhitespace, List.splitOnP_append_cons front back whitespace, List.filter_append]
  rfl

theorem splitWhitespace_unbroken {token : Text} (nonempty : token ≠ [])
    (unbroken : ∀ character ∈ token, isWhitespace character = false) : splitWhitespace token = [token] := by
  rw [splitWhitespace, List.splitOnP_eq_singleton unbroken]
  exact List.filter_cons_of_pos (decide_eq_true nonempty)

/-! ### Cuts of a row of tokens -/

theorem joined_eq_nil {tokens : List Text} (nonempty : ∀ token ∈ tokens, token ≠ []) :
    joined tokens = [] ↔ tokens = [] := by
  induction tokens using List.reverseRecOn with
  | nil => exact ⟨fun _ => rfl, fun _ => rfl⟩
  | append_singleton before token ih =>
      have last := nonempty token (List.mem_append_right _ List.mem_cons_self)
      rw [joined_snoc, appendToken]
      constructor
      · intro empty
        exact absurd (List.append_eq_nil_iff.mp empty).2 last
      · intro empty
        exact absurd empty (List.append_ne_nil_of_right_ne_nil _ (List.cons_ne_nil _ _))

/-- A further token stands behind a blank. -/
theorem joined_snoc_of_ne_nil {before : List Text} (nonempty : ∀ token ∈ before, token ≠ [])
    (some : before ≠ []) (token : Text) : joined (before ++ [token]) = joined before ++ ' ' :: token := by
  have started : joined before ≠ [] := fun empty => some ((joined_eq_nil nonempty).mp empty)
  rw [joined_snoc, appendToken, if_neg started, List.append_assoc, List.singleton_append]

theorem joined_append_cons {before : List Text} (nonempty : ∀ token ∈ before, token ≠ [])
    (some : before ≠ []) (token : Text) (after : List Text) :
    ∃ rest, joined (before ++ token :: after) = joined before ++ ' ' :: (token ++ rest) := by
  have split : before ++ token :: after = before ++ [token] ++ after := by
    rw [List.append_assoc, List.singleton_append]
  obtain ⟨rest, extended⟩ := foldl_appendToken_extends (joined (before ++ [token])) after
  refine ⟨rest, ?_⟩
  rw [split, joined_append, ← extended, joined_snoc_of_ne_nil nonempty some, List.append_assoc,
    List.cons_append]

/-- The last character of a token is no blank. -/
theorem getLast?_unbroken {token : Text} (unbroken : ∀ character ∈ token, isWhitespace character = false) :
    token.getLast? ≠ some ' ' := by
  intro blank
  have last := unbroken ' ' (List.mem_of_getLast? blank)
  exact absurd last (by decide)

/-- A limit leaves a blank at the end of a row exactly when it falls between two tokens. -/
theorem getLast?_byteTake_joined {limit : Nat} {tokens : List Text} (settled : ∀ token ∈ tokens, Settled token) :
    (byteTake limit (joined tokens)).getLast? = some ' ' ↔ CutsAtBlank limit tokens := by
  constructor
  · intro blank
    induction tokens using List.reverseRecOn with
    | nil => exact absurd blank (by simp [joined, byteTake])
    | append_singleton before token ih =>
        obtain ⟨earlier, last⟩ := List.forall_mem_append.mp settled
        have solid := last token List.mem_cons_self
        by_cases first : before = []
        · rw [first, joined_snoc] at blank
          refine absurd blank (getLast?_unbroken fun character member => ?_)
          exact solid.unbroken character ((byteTake_cuts _ _).subset member)
        · have nonempty : ∀ token ∈ before, token ≠ [] := fun token member => (earlier token member).nonempty
          rw [joined_snoc_of_ne_nil nonempty first] at blank
          by_cases inside : limit ≤ (joined before).byteLength
          · rw [byteTake_append_left _ inside] at blank
            obtain ⟨front, character, rest, after, split, some, below, above⟩ := ih earlier blank
            exact ⟨front, character, rest, after ++ [token], by rw [split, List.append_assoc, List.cons_append],
              some, below, above⟩
          · have room : ' '.utf8Size ≤ limit - (joined before).byteLength := by
              rw [show ' '.utf8Size = 1 by decide]
              omega
            rw [byteTake_append_right _ (Nat.le_of_not_le inside), byteTake, if_pos room] at blank
            obtain ⟨character, rest, shape⟩ := List.exists_cons_of_ne_nil solid.nonempty
            subst shape
            by_cases fits : character.utf8Size ≤ limit - (joined before).byteLength - ' '.utf8Size
            · rw [byteTake, if_pos fits, List.getLast?_append_of_ne_nil _ (List.cons_ne_nil _ _),
                List.getLast?_cons_cons] at blank
              refine absurd blank (getLast?_unbroken fun other member => ?_)
              refine solid.unbroken other ?_
              rcases List.mem_cons.mp member with rfl | inner
              · exact List.mem_cons_self
              · exact List.mem_cons_of_mem _ ((byteTake_cuts _ _).subset inner)
            · refine ⟨before, character, rest, [], rfl, first, Nat.lt_of_not_le inside, ?_⟩
              rw [show ' '.utf8Size = 1 by decide] at fits
              omega
  · rintro ⟨before, character, rest, after, rfl, some, below, above⟩
    have nonempty : ∀ token ∈ before, token ≠ [] := fun token member =>
      (settled token (List.mem_append_left _ member)).nonempty
    obtain ⟨following, shape⟩ := joined_append_cons nonempty some (character :: rest) after
    have room : ' '.utf8Size ≤ limit - (joined before).byteLength := by
      rw [show ' '.utf8Size = 1 by decide]
      omega
    have full : ¬ character.utf8Size ≤ limit - (joined before).byteLength - ' '.utf8Size := by
      rw [show ' '.utf8Size = 1 by decide]
      omega
    rw [shape, byteTake_append_right _ (Nat.le_of_lt below), byteTake, if_pos room, List.cons_append, byteTake,
      if_neg full]
    exact List.getLast?_concat

/-! ### A sanitized text as a cut row -/

/-- The early end of the loop, once the text has outgrown its limit, shows nowhere. -/
theorem byteTake_redactTokens (shown : Text) (tokens : List Text) :
    byteTake maxDiagnosticTextBytes (redactTokens shown tokens) =
      byteTake maxDiagnosticTextBytes (((upToSecret tokens).map App.redactToken).foldl appendToken shown) := by
  induction tokens generalizing shown with
  | nil => rfl
  | cons token rest ih =>
      simp only [redactTokens, upToSecret]
      by_cases secret : isSecretKey token = true
      · rw [if_pos secret, secret, Bool.true_or, if_pos rfl]
        rfl
      · rw [if_neg secret, Bool.eq_false_iff.mpr secret, Bool.false_or, List.map_cons, List.foldl_cons]
        split
        · next outgrown =>
            obtain ⟨more, extended⟩ := foldl_appendToken_extends (appendToken shown (App.redactToken token))
              ((upToSecret rest).map App.redactToken)
            rw [← extended, byteTake_append_left _ (Nat.le_of_lt (of_decide_eq_true outgrown))]
        · exact ih _

theorem safeDiagnosticText_eq (text : Text) :
    safeDiagnosticText text = byteTake maxDiagnosticTextBytes (joined (writtenTokens text)) :=
  byteTake_redactTokens [] _

theorem safeDiagnosticLabel_eq (text : Text) :
    safeDiagnosticLabel text = byteTake maxDiagnosticLabelBytes (joined (writtenTokens text)) := by
  rw [safeDiagnosticLabel, safeDiagnosticText_eq, byteTake_byteTake (by decide)]

theorem upToSecret_sublist (tokens : List Text) : upToSecret tokens <+: tokens := by
  induction tokens with
  | nil => exact List.prefix_rfl
  | cons token rest ih =>
      rw [upToSecret]
      split
      · exact (List.prefix_cons_inj token).mpr List.nil_prefix
      · exact (List.prefix_cons_inj token).mpr ih

theorem shownTokens_settled (text : Text) : ∀ token ∈ shownTokens text, Settled token := by
  intro token member
  obtain ⟨source, listed, rfl⟩ := List.mem_map.mp member
  obtain ⟨nonempty, unbroken⟩ := splitWhitespace_mem text source ((upToSecret_sublist _).subset listed)
  exact redactToken_settled nonempty unbroken

theorem writtenTokens_settled (text : Text) : ∀ token ∈ writtenTokens text, Settled token :=
  shownTokens_settled _

/-- A cut of a row of settled tokens is a row of settled tokens, with a blank behind it or not. -/
theorem joined_cut_tokens {tokens : List Text} (settled : ∀ token ∈ tokens, Settled token) {front : Text}
    (isPrefix : front <+: joined tokens) : ∃ kept : List Text, (∀ token ∈ kept, Settled token) ∧
      (front = joined kept ∨ front = joined kept ++ [' ']) := by
  induction tokens using List.reverseRecOn with
  | nil =>
      cases List.prefix_nil.mp isPrefix
      exact ⟨[], fun _ member => absurd member List.not_mem_nil, .inl rfl⟩
  | append_singleton before token ih =>
      obtain ⟨earlier, last⟩ := List.forall_mem_append.mp settled
      rcases joined_cut settled isPrefix with blank | ⟨kept, solid, row⟩
      · rw [joined_snoc, appendToken] at isPrefix
        rcases List.prefix_or_prefix_of_prefix isPrefix (List.prefix_append _ token) with inside | ⟨part, rfl⟩
        · split at inside
          · next empty => exact ih earlier (empty ▸ inside)
          · rcases List.prefix_concat_iff.mp inside with whole | shorter
            · exact ⟨before, earlier, .inr whole⟩
            · exact ih earlier shorter
        · have cut := (List.prefix_append_right_inj _).mp isPrefix
          by_cases nothing : part = []
          · rw [nothing, List.append_nil]
            refine ⟨before, earlier, ?_⟩
            split
            · exact .inl rfl
            · exact .inr rfl
          · rw [List.getLast?_append_of_ne_nil _ nothing] at blank
            refine absurd blank (getLast?_unbroken fun character member => ?_)
            exact (last token List.mem_cons_self).unbroken character (cut.subset member)
      · exact ⟨kept, solid, .inl row⟩

/-- Every token of a sanitized text, cut further or not, is settled. -/
theorem splitWhitespace_cut {text front : Text} (isPrefix : front <+: safeDiagnosticText text) :
    ∀ token ∈ splitWhitespace front, Settled token := by
  rw [safeDiagnosticText_eq] at isPrefix
  obtain ⟨kept, settled, row⟩ :=
    joined_cut_tokens (shownTokens_settled _) (isPrefix.trans (byteTake_cuts _ _))
  rcases row with rfl | rfl
  · rw [splitWhitespace_joined settled]
    exact settled
  · rw [splitWhitespace_append_cons _ _ (by decide), splitWhitespace_joined settled, splitWhitespace_nil,
      List.append_nil]
    exact settled

/-! ### Sanitizing twice -/

/-- A cut of a sanitized text that ends in a blank loses it to a second pass. -/
theorem safeDiagnosticText_shorter {text front : Text} (isPrefix : front <+: safeDiagnosticText text)
    (blank : front.getLast? = some ' ') : (safeDiagnosticText front).byteLength < front.byteLength := by
  have fits := (byteLength_mono isPrefix).trans (byteTake_length _ _)
  obtain ⟨kept, settled, row⟩ := joined_cut_tokens (writtenTokens_settled _)
    ((safeDiagnosticText_eq text ▸ isPrefix).trans (byteTake_cuts _ _))
  rcases row with whole | behind
  · refine absurd blank ?_
    rw [whole]
    cases kept using List.reverseRecOn with
    | nil => simp [joined]
    | append_singleton before token =>
        have solid := settled token (List.mem_append_right _ List.mem_cons_self)
        rw [joined_snoc, appendToken, List.getLast?_append_of_ne_nil _ solid.nonempty]
        exact getLast?_unbroken solid.unbroken
  · have tokens : splitWhitespace front = kept := by
      rw [behind, splitWhitespace_append_cons _ _ (by decide), splitWhitespace_joined settled,
        splitWhitespace_nil, List.append_nil]
    have longer : front.byteLength = (joined kept).byteLength + 1 := by
      rw [behind, byteLength_append, byteLength_blank]
    have passed := @redactTokens_settled [] kept settled (by rw [List.nil_append]; omega)
    rw [List.nil_append] at passed
    have second : safeDiagnosticText front = joined kept := by
      rw [safeDiagnosticText, byteTake_of_le fits, tokens]
      exact (congrArg (byteTake maxDiagnosticTextBytes) passed).trans (byteTake_of_le (by omega))
    rw [second, longer]
    exact Nat.lt_succ_self _

theorem safeDiagnosticText_idempotent_iff (text : Text) :
    safeDiagnosticText (safeDiagnosticText text) = safeDiagnosticText text ↔
      ¬ CutsAtBlank maxDiagnosticTextBytes (writtenTokens text) := by
  rw [← getLast?_byteTake_joined (writtenTokens_settled text), ← safeDiagnosticText_eq]
  constructor
  · intro same blank
    have shorter := safeDiagnosticText_shorter List.prefix_rfl blank
    rw [same] at shorter
    exact absurd shorter (Nat.lt_irrefl _)
  · exact fun noBlank => safeDiagnosticText_stable List.prefix_rfl noBlank

theorem safeDiagnosticLabel_idempotent_iff (text : Text) :
    safeDiagnosticLabel (safeDiagnosticLabel text) = safeDiagnosticLabel text ↔
      ¬ CutsAtBlank maxDiagnosticLabelBytes (writtenTokens text) := by
  rw [← getLast?_byteTake_joined (writtenTokens_settled text), ← safeDiagnosticLabel_eq]
  constructor
  · intro same blank
    have shorter := safeDiagnosticText_shorter (byteTake_cuts _ _) blank
    have cut : (safeDiagnosticLabel (safeDiagnosticLabel text)).byteLength ≤
        (safeDiagnosticText (safeDiagnosticLabel text)).byteLength := byteLength_mono (byteTake_cuts _ _)
    rw [same] at cut
    exact absurd shorter (Nat.not_lt_of_le cut)
  · exact safeDiagnosticLabel_stable

/-- A recorded event is a fixed point of `sanitize` when no limit falls between two tokens. -/
theorem sanitize_idempotent_iff (event : DiagnosticEvent) :
    event.sanitize.sanitize = event.sanitize ↔
      ¬ CutsAtBlank maxDiagnosticLabelBytes (writtenTokens event.origin) ∧
        ¬ CutsAtBlank maxDiagnosticLabelBytes (writtenTokens event.code) ∧
        ¬ CutsAtBlank maxDiagnosticTextBytes (writtenTokens event.message) ∧
        ∀ path ∈ event.path, ¬ CutsAtBlank maxDiagnosticTextBytes (writtenTokens path) := by
  have paths : (event.path.map safeDiagnosticText).map safeDiagnosticText =
      event.path.map safeDiagnosticText ↔
        ∀ path ∈ event.path, ¬ CutsAtBlank maxDiagnosticTextBytes (writtenTokens path) := by
    cases event.path with
    | none => simp
    | some path => simp [safeDiagnosticText_idempotent_iff]
  rw [← safeDiagnosticLabel_idempotent_iff, ← safeDiagnosticLabel_idempotent_iff,
    ← safeDiagnosticText_idempotent_iff, ← paths]
  simp only [DiagnosticEvent.sanitize, DiagnosticEvent.mk.injEq, true_and]

/-! ### A secret token -/

theorem upToSecret_secret {token : Text} (secret : isSecretKey token = true) (rest : List Text) :
    upToSecret (token :: rest) = [token] := if_pos secret

theorem upToSecret_plain {token : Text} (plain : isSecretKey token = false) (rest : List Text) :
    upToSecret (token :: rest) = token :: upToSecret rest := by
  rw [upToSecret, plain, if_neg Bool.false_ne_true]

theorem upToSecret_append {before : List Text} (harmless : ∀ token ∈ before, isSecretKey token = false)
    (after : List Text) : upToSecret (before ++ after) = before ++ upToSecret after := by
  induction before with
  | nil => rfl
  | cons token rest ih =>
      obtain ⟨plain, later⟩ := List.forall_mem_cons.mp harmless
      rw [List.cons_append, upToSecret_plain plain, ih later, List.cons_append]

theorem upToSecret_of_harmless {tokens : List Text} (harmless : ∀ token ∈ tokens, isSecretKey token = false) :
    upToSecret tokens = tokens := by
  have whole := upToSecret_append harmless []
  rwa [List.append_nil, upToSecret, List.append_nil] at whole

theorem splitWhitespace_head {head secret tail : Text} (first : FirstSecret head secret tail)
    (part : Text) : splitWhitespace (head ++ part) = splitWhitespace head ++ splitWhitespace part := by
  cases head using List.reverseRecOn with
  | nil => rfl
  | append_singleton front blank =>
      have whitespace := first.separated blank (by simp)
      rw [List.append_assoc, List.singleton_append, splitWhitespace_append_cons _ _ whitespace,
        splitWhitespace_append_cons _ _ whitespace, splitWhitespace_nil, List.append_nil]

/-- A row is shown up to the limit: what stands before a token, and what room there is for it. -/
theorem byteTake_appendToken (shown token : Text) :
    byteTake maxDiagnosticTextBytes (appendToken shown token) =
        byteTake maxDiagnosticTextBytes (if shown = [] then shown else shown ++ [' ']) ++
          byteTake (roomFor shown) token := by
  rw [appendToken, roomFor]
  split
  · next empty =>
      rw [empty]
      rfl
  · next started =>
      by_cases fits : (shown ++ [' ']).byteLength ≤ maxDiagnosticTextBytes
      · rw [byteTake_append_right _ fits, byteTake_of_le fits, byteLength_append, byteLength_blank]
      · rw [byteLength_append, byteLength_blank] at fits
        have none : maxDiagnosticTextBytes - (shown.byteLength + 1) = 0 := by omega
        rw [none, byteTake_zero, List.append_nil, byteTake_append_left]
        rw [byteLength_append, byteLength_blank]
        omega

theorem byteTake_appendToken_mark (shown token mark : Text) :
    byteTake maxDiagnosticTextBytes (appendToken shown token) <+: appendToken shown mark ↔
      byteTake (roomFor shown) token <+: mark := by
  rw [byteTake_appendToken, appendToken, roomFor]
  by_cases empty : shown = []
  · rw [if_pos empty, if_pos empty, empty]
    exact Iff.rfl
  · rw [if_neg empty, if_neg empty]
    by_cases fits : (shown ++ [' ']).byteLength ≤ maxDiagnosticTextBytes
    · rw [byteTake_of_le fits, List.prefix_append_right_inj]
    · rw [byteLength_append, byteLength_blank] at fits
      have none : maxDiagnosticTextBytes - (shown.byteLength + 1) = 0 := by omega
      rw [none, byteTake_zero, List.append_nil]
      exact ⟨fun _ => List.nil_prefix, fun _ => (byteTake_cuts _ _).trans (List.prefix_append _ mark)⟩

theorem redactToken_sensitive {token : Text} (sensitive : isSensitive token = true) :
    App.redactToken token = "[redacted]".toList := if_pos sensitive

theorem upToSecret_singleton (token : Text) : upToSecret [token] = [token] := by
  rw [upToSecret]
  split <;> rfl

theorem head?_of_cut {front text : Text} (isPrefix : front <+: text) {character : Char}
    (member : character ∈ front.head?) : character ∈ text.head? := by
  obtain ⟨back, rfl⟩ := isPrefix
  cases front with
  | nil => cases member
  | cons head rest => exact member

/-- Nothing is shown behind a secret token. -/
theorem upToSecret_splitWhitespace {secret rest : Text}
    (unbroken : ∀ character ∈ secret, isWhitespace character = false) (isSecret : isSecretKey secret = true)
    (ended : ∀ character ∈ rest.head?, isWhitespace character = true) :
    upToSecret (splitWhitespace (secret ++ rest)) = [secret] := by
  have nonempty : secret ≠ [] := by
    rintro rfl
    exact absurd isSecret (by decide)
  cases rest with
  | nil => rw [List.append_nil, splitWhitespace_unbroken nonempty unbroken, upToSecret_singleton]
  | cons blank rest =>
      rw [splitWhitespace_append_cons _ _ (ended blank rfl), splitWhitespace_unbroken nonempty unbroken]
      exact upToSecret_secret isSecret _

/-- A text up to a secret token shows the row in front of it and the stand-in for the token;
what the first cut leaves of a longer one is shown as it is, unless it is sensitive itself. -/
theorem secret_hidden_iff {head secret tail : Text} (first : FirstSecret head secret tail) :
    safeDiagnosticText (head ++ secret ++ tail) <+:
        appendToken (joined (writtenTokens head)) "[redacted]".toList ↔ HidesCut head secret := by
  have mark : joined (writtenTokens head) <+: appendToken (joined (writtenTokens head)) "[redacted]".toList :=
    appendToken_extends _ _
  rw [safeDiagnosticText_eq, writtenTokens, HidesCut, List.append_assoc]
  by_cases inside : maxDiagnosticTextBytes ≤ head.byteLength
  · rw [byteTake_append_left _ inside, Nat.sub_eq_zero_of_le inside, byteTake_zero]
    exact ⟨fun _ => .inr (.inr List.nil_prefix), fun _ => (byteTake_cuts _ _).trans mark⟩
  · have fits := Nat.le_of_not_le inside
    have shown : writtenTokens head = (splitWhitespace head).map App.redactToken := by
      rw [writtenTokens, byteTake_of_le fits, shownTokens, upToSecret_of_harmless first.first]
    have shownHead : shownTokens head = writtenTokens head := by
      rw [writtenTokens, byteTake_of_le fits]
    rw [byteTake_append_right _ fits, shownHead, shownTokens, splitWhitespace_head first,
      upToSecret_append first.first, List.map_append, ← shown]
    by_cases whole : secret.byteLength ≤ maxDiagnosticTextBytes - head.byteLength
    · have tokens : upToSecret (splitWhitespace (byteTake (maxDiagnosticTextBytes - head.byteLength)
          (secret ++ tail))) = [secret] := by
        rw [byteTake_append_right _ whole]
        exact upToSecret_splitWhitespace first.unbroken first.secret fun character member =>
          first.ended character (head?_of_cut (byteTake_cuts _ _) member)
      rw [tokens, byteTake_of_le whole, List.map_singleton, redactToken_sensitive, joined_snoc]
      · exact ⟨fun _ => .inl first.secret, fun _ => byteTake_cuts _ _⟩
      · rw [isSensitive, first.secret, Bool.or_true]
    · rw [byteTake_append_left _ (Nat.le_of_not_le whole)]
      generalize cut : byteTake (maxDiagnosticTextBytes - head.byteLength) secret = part
      by_cases nothing : part = []
      · rw [nothing, splitWhitespace_nil, upToSecret, List.map_nil, List.append_nil]
        exact ⟨fun _ => .inr (.inr List.nil_prefix), fun _ => (byteTake_cuts _ _).trans mark⟩
      · have unbroken : ∀ character ∈ part, isWhitespace character = false := fun character member =>
          first.unbroken character ((byteTake_cuts _ _).subset (cut ▸ member))
        rw [splitWhitespace_unbroken nothing unbroken, upToSecret_singleton, List.map_singleton, joined_snoc,
          byteTake_appendToken_mark]
        by_cases sensitive : isSensitive part = true
        · rw [redactToken_sensitive sensitive]
          refine ⟨fun _ => ?_, fun _ => byteTake_cuts _ _⟩
          simp only [isSensitive, Bool.or_eq_true] at sensitive
          exact sensitive.symm.imp id .inl
        · have plain : App.redactToken part = part.map visible := if_neg sensitive
          simp only [isSensitive, Bool.or_eq_true, not_or] at sensitive
          rw [plain]
          exact ⟨fun short => .inr (.inr short),
            fun hidden => (hidden.resolve_left sensitive.2).resolve_left sensitive.1⟩

/-! ### Texts that differ in what is hidden -/

/-- A row that goes on shows it as long as there is room for a blank. -/
theorem byteTake_foldl_eq_iff {shown : Text} (started : shown ≠ []) (tokens : List Text) :
    byteTake maxDiagnosticTextBytes shown = byteTake maxDiagnosticTextBytes (tokens.foldl appendToken shown) ↔
      tokens = [] ∨ maxDiagnosticTextBytes ≤ shown.byteLength := by
  constructor
  · intro same
    cases tokens with
    | nil => exact .inl rfl
    | cons token rest =>
        refine .inr (Nat.le_of_not_lt fun room => ?_)
        obtain ⟨more, extended⟩ := foldl_appendToken_extends (appendToken shown token) rest
        have blank : ' '.utf8Size ≤ maxDiagnosticTextBytes - shown.byteLength := by
          rw [show ' '.utf8Size = 1 by decide]
          omega
        rw [List.foldl_cons, ← extended, appendToken, if_neg started, List.append_assoc, List.append_assoc,
          byteTake_append_right _ (Nat.le_of_lt room), byteTake_of_le (Nat.le_of_lt room), List.singleton_append,
          byteTake, if_pos blank] at same
        exact absurd same (by simp)
  · rintro (rfl | full)
    · rfl
    · obtain ⟨more, extended⟩ := foldl_appendToken_extends shown tokens
      rw [← extended, byteTake_append_left _ full]

theorem upToSecret_eq_nil (tokens : List Text) : (upToSecret tokens).map App.redactToken = [] ↔ tokens = [] := by
  cases tokens with
  | nil => exact ⟨fun _ => rfl, fun _ => rfl⟩
  | cons token rest =>
      rw [upToSecret]
      split <;> simp

theorem alike_shown_iff {first second : List Text} (alike : Alike first second) (shown : Text) :
    byteTake maxDiagnosticTextBytes (((upToSecret first).map App.redactToken).foldl appendToken shown) =
        byteTake maxDiagnosticTextBytes (((upToSecret second).map App.redactToken).foldl appendToken shown) ↔
      StopsAlike shown first second := by
  have started (token : Text) (sensitive : isSensitive token = true) (shown : Text) :
      appendToken shown (App.redactToken token) ≠ [] := by
    rw [redactToken_sensitive sensitive, appendToken]
    exact List.append_ne_nil_of_right_ne_nil _ (by decide)
  induction alike generalizing shown with
  | done => exact ⟨fun _ => trivial, fun _ => rfl⟩
  | same token _ ih =>
      cases secret : isSecretKey token with
      | true => simp only [upToSecret_secret secret, StopsAlike, secret, if_true, true_or]
      | false =>
          simp only [upToSecret_plain secret, StopsAlike, secret, Bool.false_eq_true, if_false, List.map_cons,
            List.foldl_cons, ih]
  | @sensitive token other first second here there _ ih =>
      have both : App.redactToken other = App.redactToken token :=
        (redactToken_sensitive there).trans (redactToken_sensitive here).symm
      have goesOn := @byteTake_foldl_eq_iff _ (started token here shown)
      cases secret : isSecretKey token with
      | true =>
          cases again : isSecretKey other with
          | true =>
              simp only [upToSecret_secret secret, upToSecret_secret again, StopsAlike, secret, again, if_true,
                true_or, List.map_cons, List.map_nil, both]
          | false =>
              simp only [upToSecret_secret secret, upToSecret_plain again, StopsAlike, secret, again, if_true,
                Bool.false_eq_true, false_or, List.map_cons, List.map_nil, List.foldl_cons, List.foldl_nil, both,
                goesOn, upToSecret_eq_nil]
      | false =>
          cases again : isSecretKey other with
          | true =>
              simp only [upToSecret_plain secret, upToSecret_secret again, StopsAlike, secret, again, if_true,
                Bool.false_eq_true, if_false, List.map_cons, List.map_nil, List.foldl_cons, List.foldl_nil, both]
              rw [eq_comm, goesOn, upToSecret_eq_nil]
          | false =>
              simp only [upToSecret_plain secret, upToSecret_plain again, StopsAlike, secret, again,
                Bool.false_eq_true, if_false, List.map_cons, List.foldl_cons, both, ih]
  | behind first second here there =>
      have sensitive (token : Text) (secret : isSecretKey token = true) : isSensitive token = true := by
        rw [isSensitive, secret, Bool.or_true]
      have both := (redactToken_sensitive (sensitive _ there)).trans (redactToken_sensitive (sensitive _ here)).symm
      simp only [upToSecret_secret here, upToSecret_secret there, StopsAlike, here, there, if_true, true_or,
        List.map_cons, List.map_nil, both]

/-- A sanitized text is bounded and shows no address and no secret token. What it shows up to
the first secret token, whether it depends on what is hidden, and whether a second pass
changes it, is decided by where the limits fall in the row of tokens. -/
theorem diagnostic_text_redaction (text : Text) (event : DiagnosticEvent) :
    ((safeDiagnosticText text).byteLength ≤ 2048 ∧
      ∀ token ∈ splitWhitespace (safeDiagnosticText text),
        contains token "://".toList = false ∧ isSecretKey token = false) ∧
    (∀ head secret tail : Text, FirstSecret head secret tail →
      (safeDiagnosticText (head ++ secret ++ tail) <+:
          appendToken (joined (writtenTokens head)) "[redacted]".toList ↔ HidesCut head secret)) ∧
    (∀ first second : Text, first.byteLength ≤ 2048 → second.byteLength ≤ 2048 →
      Alike first.splitWhitespace second.splitWhitespace →
        (safeDiagnosticText first = safeDiagnosticText second ↔
          StopsAlike [] first.splitWhitespace second.splitWhitespace)) ∧
    (safeDiagnosticText (safeDiagnosticText text) = safeDiagnosticText text ↔
      ¬ CutsAtBlank 2048 (writtenTokens text)) ∧
    (event.sanitize.sanitize = event.sanitize ↔
      ¬ CutsAtBlank 128 (writtenTokens event.origin) ∧ ¬ CutsAtBlank 128 (writtenTokens event.code) ∧
        ¬ CutsAtBlank 2048 (writtenTokens event.message) ∧
        ∀ path ∈ event.path, ¬ CutsAtBlank 2048 (writtenTokens path)) := by
  refine ⟨⟨byteTake_length _ _, fun token member => ?_⟩, fun _ _ _ => secret_hidden_iff,
    fun first second short other alike => ?_, safeDiagnosticText_idempotent_iff text, sanitize_idempotent_iff event⟩
  · have settled := splitWhitespace_cut List.prefix_rfl token member
    exact ⟨settled.noAddress, settled.noSecret⟩
  · have whole : first.byteTake maxDiagnosticTextBytes = first := byteTake_of_le short
    have otherWhole : second.byteTake maxDiagnosticTextBytes = second := byteTake_of_le other
    rw [safeDiagnosticText_eq, safeDiagnosticText_eq, writtenTokens, writtenTokens, whole, otherWhole]
    exact alike_shown_iff alike []

/-- An origin whose label is cut off right behind a blank. -/
def blankEvent : DiagnosticEvent where
  eventId := "e".toList
  roundId := "r".toList
  attemptId := "a".toList
  origin := List.replicate 127 'a' ++ " b".toList
  code := "code".toList
  message := "message".toList
  path := none

/-- The receiver changes a label that the sender has sanitized already. -/
theorem blankEvent_changes : blankEvent.sanitize.sanitize ≠ blankEvent.sanitize := by
  decide +kernel

end Text

end Terrasync.App
