import Gatehouse.Proofs.Access.Token
/-!
# The tokens that are accepted

A token is accepted in one spelling only, but for the blanks around it.  Its three parts are the
written forms of a header, of the claims and of the signature, and each row of bytes has a single
written form.  So whoever has a token that is accepted cannot make another one of it without a
signature of the issuer under other parts.
-/

namespace Gatehouse.Access.Token

/-! ## Parts -/

/-- The parts of a token between its dots. -/
def parts (token : String) : List (List Char) :=
  Text.splitWhere (· = '.') (Text.trim token).toList

/-- A token has three parts exactly if two dots stand in it, between texts without dots. -/
theorem parts_eq_triple {token : String} {first second third : List Char} :
    parts token = [first, second, third] ↔
      (Text.trim token).toList = first ++ '.' :: (second ++ '.' :: third) ∧
        '.' ∉ first ∧ '.' ∉ second ∧ '.' ∉ third := by
  have isSolid {part : List Char} : '.' ∉ part ↔ ∀ c ∈ part, decide (c = '.') = false := by
    simp only [decide_eq_false_iff_not]
    exact ⟨fun absent c isMember isDot => absent (isDot ▸ isMember),
      fun solid isMember => solid '.' isMember rfl⟩
  constructor
  · intro split
    have whole (part : List Char) (isPart : part ∈ [first, second, third]) : '.' ∉ part :=
      isSolid.2 (Text.forall_not_of_mem_splitWhere (split ▸ isPart))
    have joined := Text.intercalate_splitWhere '.' (Text.trim token).toList
    rw [← parts, split, List.intercalate_cons_cons, List.intercalate_cons_cons,
      List.intercalate_singleton, List.append_assoc, List.append_assoc] at joined
    exact ⟨joined.symm, whole first (by simp), whole second (by simp), whole third (by simp)⟩
  · rintro ⟨spelling, firstWhole, secondWhole, thirdWhole⟩
    rw [parts, spelling, Text.splitWhere_append (isSolid.1 firstWhole) rfl,
      Text.splitWhere_append (isSolid.1 secondWhole) rfl,
      Text.splitWhere_of_forall_not (isSolid.1 thirdWhole)]

/-- The text without the blanks around it is made up of its parts and the dots between them. -/
theorem trim_eq_of_parts_eq {token other : String} (same : parts token = parts other) :
    Text.trim token = Text.trim other := by
  rw [← String.toList_inj, ← Text.intercalate_splitWhere '.' (Text.trim token).toList,
    ← Text.intercalate_splitWhere '.' (Text.trim other).toList, ← parts, ← parts, same]

/-- The part is the written form of the JSON text of a record. -/
def Holds {α : Type} (fields : Draft.Fields α) (part : List Char) (record : α) : Prop :=
  ∃ bytes, part = Base64Url.encode bytes ∧ Draft.readBytes fields.read bytes = .ok record

theorem readPart?_eq_some_iff {α : Type} {fields : Draft.Fields α} {part : List Char} {record : α} :
    readPart? fields part = some record ↔ Holds fields part record := by
  have isRead (result : Except Draft.Fault α) :
      result.toOption = some record ↔ result = .ok record := by
    cases result <;> simp [Except.toOption]
  simp only [readPart?, Option.bind_eq_bind, Option.bind_eq_some_iff,
    Base64Url.decode?_eq_some_iff, isRead, Holds]

/-! ## Acceptance -/

section

variable {issuer : Issuer} {token : String} {purpose : Purpose} {now : Instant} {claims : Claims}

/-- A token is accepted exactly if its parts are a header with the expected algorithm, the claims,
and the written form of the signature of both, and if the claims are for the purpose and have not
expired. -/
theorem validate_eq_ok_iff :
    validate issuer token purpose now = .ok claims ↔
      ∃ first second third, parts token = [first, second, third] ∧
        (∃ header, Holds Header.fields first header ∧ header.algorithm = algorithm) ∧
        third = Base64Url.encode (signature issuer first second) ∧
        Holds claimsFields second claims ∧ claims.purpose = purpose ∧
        now.seconds < claims.expiry := by
  rw [validate, ← parts]
  constructor
  · intro accepted
    split at accepted
    · rename_i first second third split
      split at accepted
      · cases accepted
      rename_i header isHeader
      split at accepted
      · cases accepted
      rename_i isExpected
      split at accepted
      · cases accepted
      rename_i found isFound
      split at accepted
      · cases accepted
      rename_i isSigned
      split at accepted
      · cases accepted
      rename_i said isSaid
      split at accepted
      · cases accepted
      rename_i isFor
      split at accepted
      · cases accepted
      rename_i isLive
      cases accepted
      rw [Decidable.not_not] at isExpected isSigned isFor
      refine ⟨first, second, third, split, ⟨header, ?_, isExpected⟩, ?_, ?_, isFor,
        Int.not_le.1 isLive⟩
      · exact readPart?_eq_some_iff.1 isHeader
      · rw [← isSigned]
        exact Base64Url.decode?_eq_some_iff.1 isFound
      · exact readPart?_eq_some_iff.1 isSaid
    · cases accepted
  · rintro ⟨first, second, third, split, ⟨header, isHeader, isExpected⟩, rfl, isSaid, rfl, isLive⟩
    simp only [split, readPart?_eq_some_iff.2 isHeader, isExpected, Base64Url.decode?_encode,
      readPart?_eq_some_iff.2 isSaid, ne_eq, not_true_eq_false, if_false, Int.not_le.2 isLive]

/-- The first two parts of a token that is accepted determine the third. -/
theorem parts_unique {other : String} {asked : Purpose} {later : Instant} {found : Claims}
    (accepted : validate issuer token purpose now = .ok claims)
    (again : validate issuer other asked later = .ok found)
    (same : (parts token).take 2 = (parts other).take 2) : parts token = parts other := by
  obtain ⟨_, _, _, split, _, signed, _⟩ := validate_eq_ok_iff.1 accepted
  obtain ⟨_, _, _, splitAgain, _, signedAgain, _⟩ := validate_eq_ok_iff.1 again
  rw [split, splitAgain] at same ⊢
  cases same
  rw [signed, signedAgain]

end

/-- The accepted tokens are the canonical ones: without the blanks around it, a token that is accepted
consists of three texts without dots and the two dots between them.  The first is the written form of
a header with the expected algorithm, the third is the written form of the code that authenticates
the first two under the secret, and the second is the written form of the claims, which are for the
purpose and have not expired.  So tokens are not malleable: two that are accepted and begin with the
same two parts are the same text, but for the blanks around them. -/
theorem accepted_tokens_are_canonical (issuer : Issuer) (token : String) (purpose : Purpose)
    (now : Instant) (claims : Claims) :
    (validate issuer token purpose now = .ok claims ↔
      ∃ first second third,
        ((Text.trim token).toList = first ++ '.' :: (second ++ '.' :: third) ∧
          '.' ∉ first ∧ '.' ∉ second ∧ '.' ∉ third) ∧
        (∃ header, Holds Header.fields first header ∧ header.algorithm = "HS256") ∧
        third = Base64Url.encode
          (Sha256.hmac issuer.secret (Utf8.encode (String.ofList (first ++ '.' :: second)))) ∧
        Holds claimsFields second claims ∧ claims.purpose = purpose ∧
        now.seconds < claims.expiry) ∧
    ∀ (other : String) (asked : Purpose) (later : Instant) (found : Claims),
      validate issuer token purpose now = .ok claims →
      validate issuer other asked later = .ok found →
      (parts token).take 2 = (parts other).take 2 → Text.trim token = Text.trim other := by
  constructor
  · simp only [validate_eq_ok_iff, parts_eq_triple]
    exact Iff.rfl
  · exact fun other asked later found accepted again same =>
      trim_eq_of_parts_eq (parts_unique accepted again same)

/-! ### A token between blanks -/

namespace Blanked

/-- An issuer with a secret of one letter. -/
def issuer : Issuer := ⟨[107], by decide, .zero, .zero⟩

/-- The claims of a session up to the hundredth second. -/
def claims : Claims := ⟨"ada", 100, 10, .random 7, .session⟩

/-- A token with a blank before it and a line feed behind it. -/
def token : String := String.ofList ([' '] ++ ((sign issuer claims).toList ++ ['\n']))

/-- A second before the expiry. -/
def now : Instant := ⟨99, 0, by decide⟩

theorem trim_token : Text.trim token = Text.trim (sign issuer claims) := by
  rw [token, Text.trim_append_left (List.forall_mem_singleton.2 rfl),
    Text.trim_append_right isBlank_of_mem_sign (List.forall_mem_singleton.2 rfl),
    String.ofList_toList, trim_sign]

theorem validate_token : validate issuer token .session now = .ok claims := by
  have fits : claims.Fits := ⟨by decide, by decide, by decide, by decide⟩
  rw [validate_eq_of_trim_eq trim_token, validate_sign_of_fits issuer fits]
  rfl

/-- The token between blanks is the same as the one without them. -/
theorem accepted_tokens_are_canonical_blanked :
    validate issuer token .session now = .ok claims ∧
      validate issuer (sign issuer claims) .session now = .ok claims ∧
      (parts token).take 2 = (parts (sign issuer claims)).take 2 ∧
      Text.trim token = Text.trim (sign issuer claims) := by
  have accepted := validate_token
  have again : validate issuer (sign issuer claims) .session now = .ok claims := by
    rw [← validate_eq_of_trim_eq trim_token, accepted]
  have same : (parts token).take 2 = (parts (sign issuer claims)).take 2 := by
    rw [parts, parts, trim_token]
  exact ⟨accepted, again, same,
    (accepted_tokens_are_canonical issuer token .session now claims).2 _ _ _ _ accepted again same⟩

end Blanked

end Gatehouse.Access.Token
