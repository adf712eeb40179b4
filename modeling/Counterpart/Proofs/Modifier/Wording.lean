import Counterpart.Modifier.Equivalence
import Mathlib.Data.List.Basic
import Mathlib.Logic.Relation

/-!
# Wordings of modifiers

The modifiers of a type or member can be worded in many ways without a change of meaning: in any
order, with repetitions, with tokens that mean nothing, with another token for finality, and on
members of the reference side with a token for the visibility that goes without saying.  These are
all changes that count for nothing: two lists of one side have the same meanings exactly if one can
be reworded as the other.  Every other token tells two lists apart.

* `mem_meanings_iff`: what a list of modifiers means.
* `reworded_iff`: which lists have the same meanings.
* `modifiers_agree_by_meaning`: when modifiers agree, and which changes keep it so.
-/

namespace Counterpart
namespace Modifier

/-- A token that means nothing across the sides. -/
inductive IsIdle : Usage → Side → String → Prop
  | static (usage : Usage) (side : Side) :
      IsIdle usage side "static"
  | ofReference {token : String}
      (listed : token ∈ ["synchronized", "transient", "native", "strictfp"]) :
      IsIdle .onMember .reference token
  | ofTarget {token : String}
      (listed : token ∈ ["virtual", "override", "new", "extern", "unsafe", "async"]) :
      IsIdle .onMember .target token

/-- A token that is written otherwise in the shared vocabulary, and how. -/
inductive Renames : Usage → Side → String → String → Prop
  | final (usage : Usage) :
      Renames usage .reference "final" "sealed"
  | readonly :
      Renames .onMember .target "readonly" "sealed"

/-- What a single token means. -/
inductive NormalForm (usage : Usage) (side : Side) (token : String) : String → Prop
  | renamed {word : String}
      (renames : Renames usage side token word) :
      NormalForm usage side token word
  | kept
      (counts : ¬ IsIdle usage side token)
      (plain : ∀ word, ¬ Renames usage side token word) :
      NormalForm usage side token token

/-- A list that leaves its visibility unsaid. -/
def LacksVisibility (tokens : List String) : Prop :=
  ∀ token ∈ ["public", "protected", "private"], token ∉ tokens

instance (tokens : List String) : Decidable (LacksVisibility tokens) :=
  inferInstanceAs (Decidable (∀ token ∈ ["public", "protected", "private"], token ∉ tokens))

/-- One change of the wording. -/
inductive Rewords (usage : Usage) (side : Side) : List String → List String → Prop
  | reorder {tokens tokens' : List String}
      (order : tokens.Perm tokens') :
      Rewords usage side tokens tokens'
  | repeated {token : String} {tokens : List String}
      (listed : token ∈ tokens) :
      Rewords usage side tokens (token :: tokens)
  | idle {token : String} (tokens : List String)
      (idle : IsIdle usage side token) :
      Rewords usage side tokens (token :: tokens)
  | renamed {token word : String} (tokens : List String)
      (renames : Renames usage side token word) :
      Rewords usage side (token :: tokens) (word :: tokens)
  | visible {tokens : List String}
      (onMember : usage = .onMember)
      (onReference : side = .reference)
      (unsaid : LacksVisibility tokens) :
      Rewords usage side tokens ("internal" :: tokens)

/-- Two wordings of the same modifiers.  One becomes the other by changes, back or forth. -/
abbrev Reworded (usage : Usage) (side : Side) : List String → List String → Prop :=
  Relation.EqvGen (Rewords usage side)

section Meaning

variable {usage : Usage} {side : Side} {token word : String} {tokens : List String}

theorem meaning_eq_none_iff :
    meaning usage side token = none ↔ IsIdle usage side token := by
  constructor
  · intro h
    unfold meaning at h
    by_cases hstatic : token = "static"
    · rw [hstatic]
      exact .static usage side
    · rw [if_neg hstatic] at h
      cases usage with
      | onType =>
          cases side <;> simp at h
      | onMember =>
          cases side with
          | reference =>
              have hlisted : token ∈ referenceIncidental := by simpa using h
              exact .ofReference hlisted
          | target =>
              have hlisted : token ∈ targetIncidental := by simpa using h
              exact .ofTarget hlisted
  · intro idle
    cases idle with
    | static =>
        rfl
    | ofReference listed =>
        have hlisted : referenceIncidental.contains token = true := by
          simpa [referenceIncidental] using listed
        simp only [meaning, hlisted, if_true, ite_self]
    | ofTarget listed =>
        have hlisted : targetIncidental.contains token = true := by
          simpa [targetIncidental] using listed
        simp only [meaning, hlisted, if_true, ite_self]

theorem meaning_of_renames
    (h : Renames usage side token word) :
    meaning usage side token = some word := by
  cases h with
  | final =>
      cases usage <;> decide
  | readonly =>
      decide

theorem meaning_of_plain
    (counts : ¬ IsIdle usage side token)
    (plain : ∀ word, ¬ Renames usage side token word) :
    meaning usage side token = some token := by
  have hstatic : token ≠ "static" := by
    rintro rfl
    exact counts (.static usage side)
  cases side with
  | reference =>
      have hfinal : token ≠ "final" := by
        rintro rfl
        exact plain "sealed" (.final usage)
      cases usage with
      | onType =>
          simp [meaning, hstatic, hfinal]
      | onMember =>
          have hlisted : token ∉ referenceIncidental := fun listed => counts (.ofReference listed)
          simp [meaning, hstatic, hfinal, hlisted]
  | target =>
      cases usage with
      | onType =>
          simp [meaning, hstatic]
      | onMember =>
          have hlisted : token ∉ targetIncidental := fun listed => counts (.ofTarget listed)
          have hreadonly : token ≠ "readonly" := by
            rintro rfl
            exact plain "sealed" .readonly
          simp [meaning, hstatic, hlisted, hreadonly]

/-- A token means its normal form. -/
theorem meaning_eq_some_iff :
    meaning usage side token = some word ↔ NormalForm usage side token word := by
  constructor
  · intro h
    by_cases hrenames : ∃ other, Renames usage side token other
    · obtain ⟨other, renames⟩ := hrenames
      rw [meaning_of_renames renames, Option.some.injEq] at h
      exact h ▸ .renamed renames
    · have hcounts : ¬ IsIdle usage side token := by
        rw [← meaning_eq_none_iff, h]
        exact Option.some_ne_none word
      have hplain := not_exists.mp hrenames
      rw [meaning_of_plain hcounts hplain, Option.some.injEq] at h
      exact h ▸ .kept hcounts hplain
  · intro h
    cases h with
    | renamed renames =>
        exact meaning_of_renames renames
    | kept counts plain =>
        exact meaning_of_plain counts plain

/-- Only the visibility of a reference member goes without saying. -/
theorem implied_eq
    (usage : Usage) (side : Side) (tokens : List String) :
    implied usage side tokens =
      if usage = .onMember ∧ side = .reference ∧ LacksVisibility tokens then ["internal"]
      else [] := by
  have hunsaid : visibilityTokens.any tokens.contains = false ↔ LacksVisibility tokens := by
    simp [LacksVisibility, visibilityTokens]
  cases usage with
  | onType =>
      simp [implied]
  | onMember =>
      cases side with
      | target =>
          simp [implied]
      | reference =>
          by_cases unsaid : LacksVisibility tokens
          · have hunstated := hunsaid.mpr unsaid
            simp [implied, hunstated, unsaid]
          · have hstated := (Bool.not_eq_false _).mp (hunsaid.not.mpr unsaid)
            simp [implied, hstated, unsaid]

theorem mem_implied_iff :
    word ∈ implied usage side tokens ↔
      usage = .onMember ∧ side = .reference ∧ LacksVisibility tokens ∧ word = "internal" := by
  rw [implied_eq, List.mem_ite_nil_right, List.mem_singleton, and_assoc, and_assoc]

/-- A list of modifiers means what its tokens mean, and what it leaves unsaid. -/
theorem mem_meanings_iff :
    word ∈ meanings usage side tokens ↔
      (usage = .onMember ∧ side = .reference ∧ LacksVisibility tokens ∧ word = "internal") ∨
        ∃ token ∈ tokens, NormalForm usage side token word := by
  simp only [meanings, List.mem_append, mem_implied_iff, List.mem_filterMap, meaning_eq_some_iff]

/-- Only tokens in a list count for what it means, not their order or number. -/
theorem mem_meanings_congr
    {tokens' : List String} (same : ∀ token, token ∈ tokens' ↔ token ∈ tokens) :
    word ∈ meanings usage side tokens' ↔ word ∈ meanings usage side tokens := by
  simp only [mem_meanings_iff, LacksVisibility, same]

/-- A token that is not a visibility adds its normal form. -/
theorem mem_meanings_cons
    (hidden : token ∉ ["public", "protected", "private"]) :
    word ∈ meanings usage side (token :: tokens) ↔
      NormalForm usage side token word ∨ word ∈ meanings usage side tokens := by
  have hunsaid : LacksVisibility (token :: tokens) ↔ LacksVisibility tokens := by
    refine forall₂_congr fun visibility listed => ?_
    rw [List.mem_cons, not_or]
    exact and_iff_right (ne_of_mem_of_not_mem listed hidden)
  simp only [mem_meanings_iff, hunsaid, List.exists_mem_cons_iff]
  exact or_left_comm

end Meaning

section Rewording

variable {usage : Usage} {side : Side} {tokens tokens' : List String}

theorem IsIdle.hidden
    {token : String} (h : IsIdle usage side token) :
    token ∉ ["public", "protected", "private"] := by
  cases h with
  | static =>
      decide
  | ofReference listed | ofTarget listed =>
      simp only [List.mem_cons, List.not_mem_nil, or_false] at listed
      rcases listed with rfl | rfl | rfl | rfl | rfl | rfl <;> decide

theorem Renames.hidden
    {token word : String} (h : Renames usage side token word) :
    token ∉ ["public", "protected", "private"] ∧ word ∉ ["public", "protected", "private"] := by
  cases h <;> decide

theorem Renames.word_eq
    {token word : String} (h : Renames usage side token word) :
    word = "sealed" := by
  cases h <;> rfl

theorem Renames.meaning_eq
    {token word : String} (h : Renames usage side token word) :
    meaning usage side token = meaning usage side word := by
  rw [meaning_of_renames h]
  cases h with
  | final =>
      cases usage <;> decide
  | readonly =>
      decide

/-- A change of the wording keeps what a list means. -/
theorem mem_meanings_iff_of_rewords
    (h : Rewords usage side tokens tokens') (word : String) :
    word ∈ meanings usage side tokens' ↔ word ∈ meanings usage side tokens := by
  cases h with
  | reorder order =>
      exact mem_meanings_congr fun _ => order.mem_iff.symm
  | @repeated token _ listed =>
      refine mem_meanings_congr fun other => ?_
      rw [List.mem_cons, or_iff_right_of_imp]
      rintro rfl
      exact listed
  | idle _ idle =>
      have hnone := meaning_eq_none_iff.mpr idle
      rw [mem_meanings_cons idle.hidden, ← meaning_eq_some_iff, hnone, or_iff_right]
      exact (Option.some_ne_none word).symm
  | renamed _ renames =>
      rw [mem_meanings_cons renames.hidden.1, mem_meanings_cons renames.hidden.2,
        ← meaning_eq_some_iff, ← meaning_eq_some_iff, renames.meaning_eq]
  | visible onMember onReference unsaid =>
      subst onMember onReference
      have hinternal : meaning .onMember .reference "internal" = some "internal" := by decide
      rw [mem_meanings_cons (by decide), ← meaning_eq_some_iff, hinternal, or_iff_right_of_imp]
      intro hword
      obtain rfl : "internal" = word := Option.some.inj hword
      exact mem_meanings_iff.mpr (Or.inl ⟨rfl, rfl, unsaid, rfl⟩)

theorem mem_meanings_iff_of_reworded
    (h : Reworded usage side tokens tokens') (word : String) :
    word ∈ meanings usage side tokens' ↔ word ∈ meanings usage side tokens := by
  induction h with
  | rel _ _ rewords =>
      exact mem_meanings_iff_of_rewords rewords word
  | refl _ =>
      rfl
  | symm _ _ _ ih =>
      exact ih.symm
  | trans _ _ _ _ _ first second =>
      exact second.trans first

theorem reworded_of_perm
    (h : tokens.Perm tokens') :
    Reworded usage side tokens tokens' :=
  .rel _ _ (.reorder h)

/-- Tokens that a list has already may be put in front of it. -/
theorem reworded_append_of_subset
    (h : tokens' ⊆ tokens) :
    Reworded usage side tokens (tokens' ++ tokens) := by
  induction tokens' with
  | nil =>
      exact .refl _
  | cons token rest ih =>
      obtain ⟨hfirst, hrest⟩ := List.cons_subset.mp h
      exact .trans _ _ _ (ih hrest) (.rel _ _ (.repeated (List.mem_append_right rest hfirst)))

/-- Lists of the same tokens are wordings of the same modifiers. -/
theorem reworded_of_mem_iff
    (h : ∀ token, token ∈ tokens' ↔ token ∈ tokens) :
    Reworded usage side tokens tokens' := by
  have hfirst : Reworded usage side tokens (tokens' ++ tokens) :=
    reworded_append_of_subset fun token => (h token).mp
  have hsecond : Reworded usage side tokens' (tokens ++ tokens') :=
    reworded_append_of_subset fun token => (h token).mpr
  have hswap : Reworded usage side (tokens' ++ tokens) (tokens ++ tokens') :=
    reworded_of_perm List.perm_append_comm
  exact .trans _ _ _ hfirst (.trans _ _ _ hswap (.symm _ _ hsecond))

/-- A token at the front may be replaced by its meaning, or left out if it has none. -/
theorem reworded_cons_meaning
    (usage : Usage) (side : Side) (token : String) (rest : List String) :
    Reworded usage side (token :: rest) ((meaning usage side token).toList ++ rest) := by
  cases hmeaning : meaning usage side token with
  | none =>
      exact .symm _ _ (.rel _ _ (.idle rest (meaning_eq_none_iff.mp hmeaning)))
  | some word =>
      cases meaning_eq_some_iff.mp hmeaning with
      | renamed renames =>
          exact .rel _ _ (.renamed rest renames)
      | kept =>
          exact .refl _

/-- The tokens of a list may be replaced by their meanings, whatever stands in front of them. -/
theorem reworded_filterMap_meaning
    (front tokens : List String) :
    Reworded usage side (front ++ tokens) (front ++ tokens.filterMap (meaning usage side)) := by
  induction tokens generalizing front with
  | nil =>
      exact .refl _
  | cons token others ih =>
      have hfirst : Reworded usage side (front ++ token :: others) (token :: (front ++ others)) :=
        reworded_of_perm List.perm_middle
      have htoken := reworded_cons_meaning usage side token (front ++ others)
      have hothers := ih ((meaning usage side token).toList ++ front)
      have hback :
          Reworded usage side
            ((meaning usage side token).toList ++ front ++
              others.filterMap (meaning usage side))
            (front ++ (meaning usage side token).toList ++
              others.filterMap (meaning usage side)) :=
        reworded_of_perm (List.perm_append_comm.append_right _)
      have hstated :
          (token :: others).filterMap (meaning usage side) =
            (meaning usage side token).toList ++ others.filterMap (meaning usage side) := by
        rw [List.filterMap_cons]
        cases meaning usage side token <;> rfl
      rw [← List.append_assoc] at htoken
      rw [hstated, ← List.append_assoc]
      exact .trans _ _ _ hfirst (.trans _ _ _ htoken (.trans _ _ _ hothers hback))

/-- Every list is a wording of its meanings. -/
theorem reworded_meanings
    (tokens : List String) :
    Reworded usage side tokens (meanings usage side tokens) := by
  have himplied : Reworded usage side tokens (implied usage side tokens ++ tokens) := by
    rw [implied_eq]
    split
    next unsaid =>
      exact .rel _ _ (.visible unsaid.1 unsaid.2.1 unsaid.2.2)
    next =>
      exact .refl _
  exact .trans _ _ _ himplied (reworded_filterMap_meaning _ tokens)

/-- Two lists of one side have the same meanings exactly if one can be reworded as the other. -/
theorem reworded_iff :
    Reworded usage side tokens tokens' ↔
      ∀ word, word ∈ meanings usage side tokens' ↔ word ∈ meanings usage side tokens := by
  constructor
  · exact mem_meanings_iff_of_reworded
  · intro same
    exact .trans _ _ _ (reworded_meanings tokens)
      (.trans _ _ _ (reworded_of_mem_iff same) (.symm _ _ (reworded_meanings tokens')))

end Rewording

section Agreement

variable {usage : Usage} {reference reference' target target' : List String}

/-- A list means `public` exactly if it says so. -/
theorem public_mem_meanings_iff
    (usage : Usage) (side : Side) {tokens : List String} :
    "public" ∈ meanings usage side tokens ↔ "public" ∈ tokens := by
  rw [mem_meanings_iff]
  constructor
  · rintro (⟨_, _, _, hpublic⟩ | ⟨token, hmem, hmeans⟩)
    · exact absurd hpublic (by decide)
    · cases hmeans with
      | renamed renames =>
          exact absurd renames.word_eq (by decide)
      | kept =>
          exact hmem
  · intro hmem
    have hmeans : meaning usage side "public" = some "public" := by
      cases usage <;> cases side <;> decide
    exact Or.inr ⟨"public", hmem, meaning_eq_some_iff.mp hmeans⟩

/-- Modifiers are compared by their meanings, once both types are seen to be public. -/
theorem agree_eq
    (usage : Usage) (reference target : List String) :
    agree usage reference target =
      if usage = .onType ∧ "public" ∉ reference then .error .reference
      else if usage = .onType ∧ "public" ∉ target then .error .target
      else
        .ok (sameTokens (meanings usage .reference reference) (meanings usage .target target)) := by
  cases usage with
  | onType =>
      simp [agree, agreeOnTypes]
  | onMember =>
      simp [agree, agreeOnMembers]

theorem agree_eq_error_reference_iff :
    agree usage reference target = .error .reference ↔
      usage = .onType ∧ "public" ∉ reference := by
  rw [agree_eq]
  by_cases hidden : usage = .onType ∧ "public" ∉ reference
  · simp [hidden]
  · rw [if_neg hidden, iff_false_right hidden]
    split <;> simp

theorem agree_eq_error_target_iff :
    agree usage reference target = .error .target ↔
      usage = .onType ∧ "public" ∈ reference ∧ "public" ∉ target := by
  rw [agree_eq]
  by_cases hidden : usage = .onType ∧ "public" ∉ reference
  · simp [hidden]
  · rw [if_neg hidden]
    by_cases hidden' : usage = .onType ∧ "public" ∉ target
    · have shown : "public" ∈ reference := by
        by_contra absent
        exact hidden ⟨hidden'.1, absent⟩
      simp [hidden', shown]
    · rw [if_neg hidden']
      simpa using fun onType _ absent => hidden' ⟨onType, absent⟩

theorem agree_eq_ok_iff
    {same : Bool} :
    agree usage reference target = .ok same ↔
      (usage = .onType → "public" ∈ reference ∧ "public" ∈ target) ∧
        sameTokens (meanings usage .reference reference) (meanings usage .target target) =
          same := by
  rw [agree_eq]
  split
  next hidden =>
    simp [hidden]
  next shown =>
    split
    next hidden =>
      simp [hidden]
    next shown' =>
      simp only [not_and, not_not] at shown shown'
      rw [Except.ok.injEq, iff_and_self]
      exact fun _ onType => ⟨shown onType, shown' onType⟩

/-- Whether modifiers agree depends on their meanings only. -/
theorem agree_congr
    (hreference :
      ∀ word, word ∈ meanings usage .reference reference' ↔
        word ∈ meanings usage .reference reference)
    (htarget :
      ∀ word, word ∈ meanings usage .target target' ↔ word ∈ meanings usage .target target) :
    agree usage reference' target' = agree usage reference target := by
  have hsame :
      sameTokens (meanings usage .reference reference') (meanings usage .target target') =
        sameTokens (meanings usage .reference reference) (meanings usage .target target) := by
    rw [Bool.eq_iff_iff, mem_sameTokens_iff, mem_sameTokens_iff]
    simp only [hreference, htarget]
  have hpublic : "public" ∈ reference' ↔ "public" ∈ reference := by
    rw [← public_mem_meanings_iff usage .reference, hreference, public_mem_meanings_iff]
  have hpublic' : "public" ∈ target' ↔ "public" ∈ target := by
    rw [← public_mem_meanings_iff usage .target, htarget, public_mem_meanings_iff]
  simp only [agree_eq, hsame, hpublic, hpublic']

/-- Modifiers that agree do not any more once a word is added that only one side means. -/
theorem agree_eq_ok_false
    (agrees : agree usage reference target = .ok true)
    (hreference : reference ⊆ reference') (htarget : target ⊆ target') {word : String}
    (apart :
      ¬ (word ∈ meanings usage .reference reference' ↔ word ∈ meanings usage .target target')) :
    agree usage reference' target' = .ok false := by
  obtain ⟨shown, -⟩ := agree_eq_ok_iff.mp agrees
  rw [agree_eq_ok_iff, ← Bool.not_eq_true, mem_sameTokens_iff]
  exact ⟨fun onType => ⟨hreference (shown onType).1, htarget (shown onType).2⟩,
    fun same => apart (same word)⟩

section Added

variable {side : Side} {token word : String} {tokens tokens' : List String}
  (added : tokens'.Perm (token :: tokens))
include added

theorem subset_of_added :
    tokens ⊆ tokens' :=
  fun _ hmem => added.mem_iff.mpr (List.mem_cons_of_mem token hmem)

theorem mem_meanings_of_added
    (means : NormalForm usage side token word) :
    word ∈ meanings usage side tokens' :=
  mem_meanings_iff.mpr (Or.inr ⟨token, added.mem_iff.mpr List.mem_cons_self, means⟩)

end Added

end Agreement

/-- Modifiers of types are refused if a side is not public, the reference side first.  Otherwise,
and always for members, it is all the same how they are worded; but if they agree, then any further
token on one side that means what this side did not mean yet makes them disagree. -/
theorem modifiers_agree_by_meaning
    (usage : Usage) (reference target : List String) :
    (agree usage reference target = .error .reference ↔
        usage = .onType ∧ "public" ∉ reference) ∧
      (agree usage reference target = .error .target ↔
        usage = .onType ∧ "public" ∈ reference ∧ "public" ∉ target) ∧
      (∀ reference' target',
        Reworded usage .reference reference reference' → Reworded usage .target target target' →
          agree usage reference' target' = agree usage reference target) ∧
      (agree usage reference target = .ok true →
        ∀ token word,
          (∀ reference',
            reference'.Perm (token :: reference) → NormalForm usage .reference token word →
              word ∉ meanings usage .reference reference →
                agree usage reference' target = .ok false) ∧
          ∀ target',
            target'.Perm (token :: target) → NormalForm usage .target token word →
              word ∉ meanings usage .target target →
                agree usage reference target' = .ok false) := by
  refine ⟨agree_eq_error_reference_iff, agree_eq_error_target_iff, ?_, ?_⟩
  · intro reference' target' hreference htarget
    exact agree_congr (reworded_iff.mp hreference) (reworded_iff.mp htarget)
  · intro agrees token word
    have hsame := mem_sameTokens_iff.mp (agree_eq_ok_iff.mp agrees).2 word
    constructor
    · intro reference' added means new
      have hadded := mem_meanings_of_added added means
      apply agree_eq_ok_false agrees (subset_of_added added) (List.Subset.refl target)
      exact fun same => new (hsame.mpr (same.mp hadded))
    · intro target' added means new
      have hadded := mem_meanings_of_added added means
      apply agree_eq_ok_false agrees (List.Subset.refl reference) (subset_of_added added)
      exact fun same => new (hsame.mp (same.mpr hadded))

section Samples

/-- A constant without visibility, said with a synonym, its visibility and an idle token. -/
theorem reworded_constant :
    Reworded .onMember .reference ["final"] ["native", "internal", "sealed"] := by
  have hfinality : Reworded .onMember .reference ["final"] ["sealed"] :=
    .rel _ _ (.renamed [] (.final .onMember))
  have hvisibility : Reworded .onMember .reference ["sealed"] ["internal", "sealed"] :=
    .rel _ _ (.visible rfl rfl (by decide))
  exact .trans _ _ _ hfinality
    (.trans _ _ _ hvisibility (.rel _ _ (.idle _ (.ofReference (by decide)))))

/-- Its counterpart, said with a synonym, in another order and with an idle token. -/
theorem reworded_constantCounterpart :
    Reworded .onMember .target ["readonly", "internal"] ["async", "internal", "sealed"] := by
  have hfinality : Reworded .onMember .target ["readonly", "internal"] ["sealed", "internal"] :=
    .rel _ _ (.renamed ["internal"] .readonly)
  have horder : Reworded .onMember .target ["sealed", "internal"] ["internal", "sealed"] :=
    reworded_of_perm (.swap _ _ _)
  exact .trans _ _ _ hfinality
    (.trans _ _ _ horder (.rel _ _ (.idle _ (.ofTarget (by decide)))))

/-- The two agree in either wording, and no more once the first one is volatile. -/
theorem modifiers_agree_by_meaning_constant :
    Reworded .onMember .reference ["final"] ["native", "internal", "sealed"] ∧
      Reworded .onMember .target ["readonly", "internal"] ["async", "internal", "sealed"] ∧
      agree .onMember ["final"] ["readonly", "internal"] = .ok true ∧
      agree .onMember ["native", "internal", "sealed"] ["async", "internal", "sealed"] =
        .ok true ∧
      ["final", "volatile"].Perm ["volatile", "final"] ∧
      NormalForm .onMember .reference "volatile" "volatile" ∧
      "volatile" ∉ meanings .onMember .reference ["final"] ∧
      agree .onMember ["final", "volatile"] ["readonly", "internal"] = .ok false := by
  obtain ⟨-, -, reworded, added⟩ :=
    modifiers_agree_by_meaning .onMember ["final"] ["readonly", "internal"]
  have hagrees : agree .onMember ["final"] ["readonly", "internal"] = .ok true := by decide
  have hadds : ["final", "volatile"].Perm ["volatile", "final"] := .swap _ _ _
  have hmeans : NormalForm .onMember .reference "volatile" "volatile" :=
    meaning_eq_some_iff.mp (by decide)
  have hnew : "volatile" ∉ meanings .onMember .reference ["final"] := by decide
  refine ⟨reworded_constant, reworded_constantCounterpart, hagrees, ?_, hadds, hmeans, hnew, ?_⟩
  · rw [reworded _ _ reworded_constant reworded_constantCounterpart, hagrees]
  · exact (added hagrees "volatile" "volatile").1 _ hadds hmeans hnew

end Samples

end Modifier
end Counterpart
