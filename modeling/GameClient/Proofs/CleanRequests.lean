import GameClient.Proofs.AllowedCalls

/-!
# Clean requests

A request is validated by trimming its fields. Requests that come out of this are clean: validating
one of them again gives it back. So validation is a projection, and what it projects away are the
blanks around the fields: two requests that differ in nothing else come to the same.

A request is refused exactly if nothing but blanks was typed into one of its fields, and of two such
fields the nickname is named. The main statement is `validation_projects`.
-/

namespace GameClient.Session.CreationRequest

open Text (Pads isBlank trim trims_trim trims_iff_eq_trim)

/-! ### Fields -/

def typedNickname : CreationRequest → String
  | new name => name
  | join name _ => name

/-- The invite code as it was typed, if a game is to be joined. -/
def typedCode? : CreationRequest → Option String
  | new _ => none
  | join _ code => some code

/-- Something else than blanks was typed. -/
def Written (typed : String) : Prop := ∃ c ∈ typed.toList, isBlank c = false

/-- Both were typed with blanks around one text. -/
def PaddedAlike (typed other : String) : Prop := ∃ text, Pads text typed ∧ Pads text other

/-- The requests have one mode, and their fields differ at most in the blanks around them. -/
inductive Alike : CreationRequest → CreationRequest → Prop where
  | new {typed other : String} (nickname : PaddedAlike typed other) :
      Alike (.new typed) (.new other)
  | join {typed other typedCode otherCode : String} (nickname : PaddedAlike typed other)
      (inviteCode : PaddedAlike typedCode otherCode) :
      Alike (.join typed typedCode) (.join other otherCode)

variable {request clean other : CreationRequest} {typed : String}

theorem written_iff : Written typed ↔ trim typed ≠ "" := Text.trim_ne_empty_iff.symm

theorem not_written_iff : ¬ Written typed ↔ trim typed = "" := by
  rw [written_iff, not_not]

theorem trim_eq_of_paddedAlike {left right : String} (padded : PaddedAlike left right) :
    trim left = trim right := by
  obtain ⟨text, first, second⟩ := padded
  rw [Text.trim_of_pads first, Text.trim_of_pads second]

/-! ### What validating comes to -/

/-- What validating a request can come to. -/
inductive Checked (request : CreationRequest) : Except ValidationError CreationRequest → Prop where
  | unnamed (blank : ¬ Written request.typedNickname) : Checked request (.error .missingNickname)
  | uncoded {code : String} (named : Written request.typedNickname)
      (asked : request.typedCode? = some code) (blank : ¬ Written code) :
      Checked request (.error .missingInviteCode)
  | clean {clean : CreationRequest} (named : Written request.typedNickname)
      (coded : ∀ code ∈ request.typedCode?, Written code) (cleans : request.Cleans clean) :
      Checked request (.ok clean)

/-- The list of `Checked` is complete. -/
theorem checked_validated (request : CreationRequest) : request.Checked request.validated := by
  cases request with
  | new name =>
      simp only [validated]
      split
      · next blank => exact .unnamed (not_written_iff.mpr blank)
      · next named =>
          refine .clean (written_iff.mpr named) ?_ (.new (trims_trim name) named)
          intro code mem
          cases mem
  | join name code =>
      simp only [validated]
      split
      · next blank => exact .unnamed (not_written_iff.mpr blank)
      · next named =>
          split
          · next blank => exact .uncoded (written_iff.mpr named) rfl (not_written_iff.mpr blank)
          · next coded =>
              refine .clean (written_iff.mpr named) ?_
                (.join (trims_trim name) named (trims_trim code) coded)
              intro typed mem
              obtain rfl := Option.some.inj mem
              exact written_iff.mpr coded

/-- The nickname is looked at first. -/
theorem validated_eq_missingNickname_iff :
    request.validated = .error .missingNickname ↔ ¬ Written request.typedNickname := by
  have checked := request.checked_validated
  generalize request.validated = result at *
  cases checked with
  | unnamed blank => simp [blank]
  | uncoded named => simp [named]
  | clean named => simp [named]

theorem validated_eq_missingInviteCode_iff :
    request.validated = .error .missingInviteCode ↔
      Written request.typedNickname ∧ ∃ code ∈ request.typedCode?, ¬ Written code := by
  have checked := request.checked_validated
  generalize request.validated = result at *
  cases checked with
  | unnamed blank => simp [blank]
  | uncoded named asked blank => simp [named, asked, blank]
  | clean named coded => simpa [named] using coded

theorem exists_validated_iff :
    (∃ clean, request.validated = .ok clean) ↔
      Written request.typedNickname ∧ ∀ code ∈ request.typedCode?, Written code := by
  have checked := request.checked_validated
  generalize request.validated = result at *
  cases checked with
  | unnamed blank => simp [blank]
  | uncoded named asked blank => simp [asked, blank]
  | clean named coded => simpa [named] using coded

/-! ### What comes of a request -/

theorem Cleans.again (cleans : request.Cleans clean) : clean.Cleans clean := by
  cases cleans with
  | new trims named => exact .new trims.again named
  | join trims named trimsCode coded =>
      exact .join trims.again named trimsCode.again coded

theorem Cleans.nickname_eq (cleans : request.Cleans clean) :
    clean.nickname = clean.typedNickname ∧ clean.nickname = request.nickname := by
  cases cleans with
  | new trims _ =>
      obtain rfl := trims_iff_eq_trim.mp trims
      exact ⟨Text.trim_trim _, Text.trim_trim _⟩
  | join trims _ _ _ =>
      obtain rfl := trims_iff_eq_trim.mp trims
      exact ⟨Text.trim_trim _, Text.trim_trim _⟩

/-- Blanks around the fields make no difference. -/
theorem Alike.validated_eq (alike : request.Alike other) : request.validated = other.validated := by
  cases alike with
  | new nickname => simp only [validated, trim_eq_of_paddedAlike nickname]
  | join nickname inviteCode =>
      simp only [validated, trim_eq_of_paddedAlike nickname, trim_eq_of_paddedAlike inviteCode]

/-- Requests that come to the same clean request differ in blanks only. -/
theorem Cleans.alike (cleans : request.Cleans clean) (same : other.Cleans clean) :
    request.Alike other := by
  cases cleans with
  | new trims _ =>
      cases same with
      | new otherTrims _ => exact .new ⟨_, trims.2, otherTrims.2⟩
  | join trims _ trimsCode _ =>
      cases same with
      | join otherTrims _ otherTrimsCode _ =>
          exact .join ⟨_, trims.2, otherTrims.2⟩ ⟨_, trimsCode.2, otherTrimsCode.2⟩

/-! ### What is promised -/

/-- What validating a request does. -/
structure IsProjected (request : CreationRequest) : Prop where
  /-- It succeeds exactly if something was typed into each field, -/
  accepted : (∃ clean, request.validated = .ok clean) ↔
    Written request.typedNickname ∧ ∀ code ∈ request.typedCode?, Written code
  /-- and otherwise says what is missing, the nickname before the invite code. -/
  unnamed : request.validated = .error .missingNickname ↔ ¬ Written request.typedNickname
  uncoded : request.validated = .error .missingInviteCode ↔
    Written request.typedNickname ∧ ∃ code ∈ request.typedCode?, ¬ Written code
  /-- What comes of it has the same mode and the same fields without the blanks around them. -/
  cleans : ∀ clean, request.validated = .ok clean → request.Cleans clean
  /-- It is a projection: -/
  again : ∀ clean, request.validated = .ok clean → clean.validated = .ok clean
  nickname : ∀ clean, request.validated = .ok clean →
    clean.nickname = clean.typedNickname ∧ clean.nickname = request.nickname
  /-- Blanks around the fields make no difference, and all other differences are kept. -/
  alike : ∀ other, request.Alike other → request.validated = other.validated
  apart : ∀ other clean, request.validated = .ok clean → other.validated = .ok clean →
    request.Alike other

/-- **Validation.** Validating requests is a projection onto clean requests, which forgets the
blanks around the fields and nothing else, and fails exactly if a field holds only blanks. -/
theorem validation_projects (request : CreationRequest) : request.IsProjected where
  accepted := exists_validated_iff
  unnamed := validated_eq_missingNickname_iff
  uncoded := validated_eq_missingInviteCode_iff
  cleans clean valid := validated_eq_ok_iff.mp valid
  again clean valid := by
    have cleans := validated_eq_ok_iff.mp valid
    exact validated_eq_ok_iff.mpr cleans.again
  nickname clean valid := (validated_eq_ok_iff.mp valid).nickname_eq
  alike other alike := alike.validated_eq
  apart other clean valid same :=
    (validated_eq_ok_iff.mp valid).alike (validated_eq_ok_iff.mp same)

/-- The ideographic space and the line end are blanks, the space within the name is not trimmed. -/
example :
    (join "\u3000Ada L \n" "\tABC123").validated = .ok (join "Ada L" "ABC123") := by
  decide

end GameClient.Session.CreationRequest
