import Gatehouse.Access.Token
import Gatehouse.Proofs.Data.Base64Url
import Gatehouse.Proofs.Data.Hex
import Gatehouse.Proofs.Http.Cookie
import Gatehouse.Proofs.Json.Reading
import Gatehouse.Proofs.Json.Record
/-!
# Validation undoes signing

A signed token consists of digits of base64 and of two dots, so it is cut where it was joined, and all
its characters are plain.  Each part is decoded and read as the document that it was written for, and
the signature is the one that the validator computes from the same two parts.  What remains of the
validation is the purpose and the expiry.
-/

namespace Gatehouse.Access

/-! ## The parts of a token -/

/-- The seconds of a token have 64 bits. -/
structure Claims.Fits (claims : Claims) : Prop where
  expiry_least : Word.leastSigned ≤ claims.expiry
  expiry_greatest : claims.expiry ≤ Word.greatestSigned
  issuedAt_least : Word.leastSigned ≤ claims.issuedAt
  issuedAt_greatest : claims.issuedAt ≤ Word.greatestSigned

namespace Token

theorem purpose_ofName?_name (purpose : Purpose) : Purpose.ofName? purpose.name = some purpose := by
  cases purpose <;> decide

theorem reread_second {n : Int} (least : Word.leastSigned ≤ n)
    (greatest : n ≤ Word.greatestSigned) : (Json.int n).reread = .number (some (.int n)) := by
  refine Json.reread_int least ?_
  unfold Word.greatestSigned Word.greatest64 at *
  omega

theorem readPart?_part {α : Type} (fields : Draft.Fields α) (json : Json) :
    readPart? fields (part json) = (fields.read json.reread).toOption := by
  simp only [readPart?, part, Base64Url.decode?_encode, Option.bind_eq_bind, Option.bind_some,
    Draft.readBytes_compact]

theorem readPart?_header : readPart? Header.fields (part header.document) = some header := by
  rw [readPart?_part]
  rfl

theorem readPart?_claims {claims : Claims} (fits : claims.Fits) :
    readPart? claimsFields (part (claimsDocument claims)) = some claims := by
  have expiry := reread_second fits.expiry_least fits.expiry_greatest
  have issuedAt := reread_second fits.issuedAt_least fits.issuedAt_greatest
  rw [readPart?_part]
  have read : claimsFields.read (claimsDocument claims).reread = .ok claims := by
    have members : (claimsDocument claims).reread = .object (Draft.Fields.named [
        ("sub", .string (some claims.subject)), ("exp", .number (some (.int claims.expiry))),
        ("iat", .number (some (.int claims.issuedAt))), ("jti", .string (some claims.id.text)),
        ("purpose", .string (some claims.purpose.name))]) := by
      simp only [claimsDocument, Json.reread, Json.rereadMembers, expiry, issuedAt]
      rfl
    have reads : claimsFields.Reads _ claims :=
      Draft.Fields.Reads.map Claims.mk (.single (Draft.text_string _))
        |>.seq (.single (Draft.integer_int ⟨fits.expiry_least, fits.expiry_greatest⟩))
        |>.seq (.single (Draft.integer_int ⟨fits.issuedAt_least, fits.issuedAt_greatest⟩))
        |>.seq (.single (Draft.spelled_string (Uuid.parse?_text _)))
        |>.seq (.single (Draft.choice_string (purpose_ofName?_name _)))
    rw [members]
    exact reads.read_named (by simp)
  rw [read]
  rfl

/-! ## The whole token -/

theorem plain_digit : ∀ n < 64,
    Http.IsPlain (Base64Url.digit n) ∧ decide (Base64Url.digit n = '.') = false := by
  decide

/-- A character of a part is plain and no dot. -/
theorem plain_of_mem_encode {bytes : Bytes} {c : Char} (isMember : c ∈ Base64Url.encode bytes) :
    Http.IsPlain c ∧ decide (c = '.') = false := by
  obtain ⟨n, small, rfl⟩ := Base64Url.exists_digit_of_mem_encode isMember
  exact plain_digit n small

/-- A signed token consists of plain characters: the digits of its parts and the dots. -/
theorem allPlain_sign (issuer : Issuer) (claims : Claims) : Http.AllPlain (sign issuer claims) := by
  intro c isMember
  simp only [sign, part, String.toList_ofList, List.mem_append, List.mem_cons] at isMember
  rcases isMember with (isDigit | rfl | isDigit) | rfl | isDigit
  · exact (plain_of_mem_encode isDigit).1
  · decide
  · exact (plain_of_mem_encode isDigit).1
  · decide
  · exact (plain_of_mem_encode isDigit).1

/-- A signed token has no blanks at its ends, nor anywhere else. -/
theorem isBlank_of_mem_sign {issuer : Issuer} {claims : Claims} :
    ∀ c ∈ (sign issuer claims).toList, Text.isBlank c = false :=
  fun c isMember => (allPlain_sign issuer claims c isMember).not_blank

theorem trim_sign (issuer : Issuer) (claims : Claims) :
    Text.trim (sign issuer claims) = sign issuer claims :=
  Text.trim_of_forall_not isBlank_of_mem_sign

/-- A token is cut where it was joined. -/
theorem splitWhere_sign (issuer : Issuer) (claims : Claims) :
    Text.splitWhere (· = '.') (sign issuer claims).toList =
      [part header.document, part (claimsDocument claims),
        Base64Url.encode
          (signature issuer (part header.document) (part (claimsDocument claims)))] := by
  simp only [sign, String.toList_ofList, List.append_assoc, List.cons_append]
  rw [part, part, Text.splitWhere_append (fun c isMember => (plain_of_mem_encode isMember).2) rfl,
    Text.splitWhere_append (fun c isMember => (plain_of_mem_encode isMember).2) rfl,
    Text.splitWhere_of_forall_not fun c isMember => (plain_of_mem_encode isMember).2]

/-- A token that was signed for claims of 64 bits fails by its purpose or its expiry only. -/
theorem validate_sign_of_fits (issuer : Issuer) {claims : Claims} (fits : claims.Fits)
    (purpose : Purpose) (now : Instant) :
    validate issuer (sign issuer claims) purpose now =
      if claims.purpose ≠ purpose then .error .wrongPurpose
      else if claims.expiry ≤ now.seconds then .error .expired
      else .ok claims := by
  have expected : header.algorithm = algorithm := rfl
  simp only [validate, trim_sign, splitWhere_sign, readPart?_header, expected, ne_eq,
    not_true_eq_false, if_false, Base64Url.decode?_encode, readPart?_claims fits]

/-- Blanks around a token do not matter. -/
theorem validate_eq_of_trim_eq {first second : String} (same : Text.trim first = Text.trim second)
    (issuer : Issuer) : validate issuer first = validate issuer second := by
  funext purpose now
  simp only [validate, same]

/-- The claims of a token that is accepted stand in its second part. -/
theorem readPart?_of_validate {issuer : Issuer} {token : String} {purpose : Purpose} {now : Instant}
    {claims : Claims} (accepted : validate issuer token purpose now = .ok claims) :
    ∃ first second third, Text.splitWhere (· = '.') (Text.trim token).toList =
      [first, second, third] ∧ readPart? claimsFields second = some claims := by
  unfold validate at accepted
  split at accepted
  · rename_i first second third parts
    refine ⟨first, second, third, parts, ?_⟩
    repeat' split at accepted
    all_goals cases accepted
    assumption
  · cases accepted

/-- What an accepted token says does not depend on when it is presented. -/
theorem claims_unique {issuer : Issuer} {token : String} {purpose other : Purpose}
    {now later : Instant} {claims found : Claims}
    (accepted : validate issuer token purpose now = .ok claims)
    (again : validate issuer token other later = .ok found) : found = claims := by
  obtain ⟨_, second, _, parts, read⟩ := readPart?_of_validate accepted
  obtain ⟨_, _, _, partsAgain, readAgain⟩ := readPart?_of_validate again
  rw [parts] at partsAgain
  cases partsAgain
  exact Option.some.inj (readAgain.symm.trans read)

/-- The seconds of the calendar fit into a token. -/
theorem fits_of_instants (subject : String) (expiry issued : Instant) (id : Uuid)
    (purpose : Purpose) : Claims.Fits ⟨subject, expiry.seconds, issued.seconds, id, purpose⟩ := by
  have inCalendar (instant : Instant) :
      Word.leastSigned ≤ instant.seconds ∧ instant.seconds ≤ Word.greatestSigned := by
    obtain ⟨first, last, _⟩ := instant.valid
    unfold Instant.firstSecond at first
    unfold Instant.lastSecond at last
    unfold Word.leastSigned Word.greatestSigned
    omega
  exact ⟨(inCalendar expiry).1, (inCalendar expiry).2, (inCalendar issued).1, (inCalendar issued).2⟩

theorem fits_claimsFor (subject : String) (purpose : Purpose) (lifetime : Span) (now : Instant)
    (id : Uuid) : (claimsFor subject purpose lifetime now id).Fits :=
  fits_of_instants subject (expiryAfter lifetime now) now id purpose

theorem expiry_of_instants (subject : String) (expiry issued : Instant) (id : Uuid)
    (purpose : Purpose) :
    (⟨subject, expiry.seconds, issued.seconds, id, purpose⟩ : Claims).expiry = expiry.seconds :=
  rfl

-- The law is an instance of the one before: unfolding the sum of two instants goes too deep.
theorem expiry_claimsFor (subject : String) (purpose : Purpose) (lifetime : Span) (now : Instant)
    (id : Uuid) : (claimsFor subject purpose lifetime now id).expiry =
      ((now.add? lifetime).getD .last).seconds :=
  expiry_of_instants subject (expiryAfter lifetime now) now id purpose

/-- A token that was issued for a purpose is accepted for it until the second of its expiry. -/
theorem validate_issued (issuer : Issuer) (subject : String) (purpose : Purpose) (lifetime : Span)
    (issued now : Instant) (id : Uuid) :
    validate issuer (sign issuer (claimsFor subject purpose lifetime issued id)) purpose now =
      if ((issued.add? lifetime).getD .last).seconds ≤ now.seconds then .error .expired
      else .ok (claimsFor subject purpose lifetime issued id) := by
  have samePurpose : (claimsFor subject purpose lifetime issued id).purpose = purpose := rfl
  rw [validate_sign_of_fits issuer (fits_claimsFor _ _ _ _ _), if_neg (not_not_intro samePurpose),
    expiry_claimsFor]

theorem validate_issueSession_of_lt (issuer : Issuer) (subject : String) {issued now : Instant}
    (id : Uuid)
    (live : now.seconds < ((issued.add? issuer.sessionLifetime).getD .last).seconds) :
    validate issuer (issuer.issueSession subject issued id) .session now =
      .ok (claimsFor subject .session issuer.sessionLifetime issued id) := by
  rw [Issuer.issueSession, validate_issued, if_neg (Int.not_le.2 live)]

theorem allPlain_issueSession (issuer : Issuer) (subject : String) (issued : Instant) (id : Uuid) :
    Http.AllPlain (issuer.issueSession subject issued id) :=
  allPlain_sign _ _

/-! ## Words -/

/-- Seconds kept in words of 64 bits fit into a token. -/
theorem fits_of_words (subject : String) (expiry issuedAt : Int64) (id : Uuid) (purpose : Purpose) :
    Claims.Fits ⟨subject, expiry.toInt, issuedAt.toInt, id, purpose⟩ where
  expiry_least := Int64.le_toInt expiry
  expiry_greatest := by
    have bound := expiry.toInt_lt
    simp only [Word.greatestSigned]
    omega
  issuedAt_least := Int64.le_toInt issuedAt
  issuedAt_greatest := by
    have bound := issuedAt.toInt_lt
    simp only [Word.greatestSigned]
    omega

/-- Validation undoes signing: whatever the subject, the seconds, the identifier and the purpose, a
signed token is refused for another purpose, then once its expiry is reached, and otherwise the
claims are those that were signed. -/
theorem validate_sign (issuer : Issuer) (subject : String) (expiry issuedAt : Int64) (id : Uuid)
    (purpose requested : Purpose) (now : Instant) :
    let claims : Claims := ⟨subject, expiry.toInt, issuedAt.toInt, id, purpose⟩
    validate issuer (sign issuer claims) requested now =
      if purpose ≠ requested then .error .wrongPurpose
      else if expiry.toInt ≤ now.seconds then .error .expired
      else .ok claims :=
  validate_sign_of_fits issuer (fits_of_words subject expiry issuedAt id purpose) requested now

end Token

end Gatehouse.Access
