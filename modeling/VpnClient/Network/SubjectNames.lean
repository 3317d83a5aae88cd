import VpnClient.Library.DomainNames
import VpnClient.Library.Globs

/-! The check of the names in a certificate matches them as file globs, which deviates from the names of domains in
case, in what a star stands for and in other characters of globs. -/

namespace VpnClient.Network

open Library.DomainNames Library.Globs

structure QSslCertificate where
  commonNames : List (List Char)
  dnsEntries : List (List Char)
  deriving DecidableEq

inductive SslError where
  | HostNameMismatch
  | other (code : ℕ)
  deriving DecidableEq

structure QSslError where
  error : SslError
  certificate : QSslCertificate
  deriving DecidableEq

/-- A request with the raw header for its host, the host of the URL of its reply, and the errors that are ignored. -/
structure SslRequest where
  hostHeader : Option (List Char) := none
  reply : Option (List Char) := none
  ignored : List QSslError := []
  deriving DecidableEq

namespace SslRequest

def hostname (r : SslRequest) : List Char :=
  let hostname := r.hostHeader.getD []
  if hostname = [] then r.reply.getD [] else hostname

def checkSubjectName (separator : Char → Bool) (cert : QSslCertificate) (r : SslRequest) : Bool :=
  cert.commonNames.contains r.hostname ||
    cert.dnsEntries.any fun pattern => globMatches separator pattern r.hostname

def sslErrors (separator : Char → Bool) (errors : List QSslError) (r : SslRequest) : SslRequest :=
  if r.reply = none then r
  else
    match errors with
    | [e] =>
      if r.hostHeader.isSome ∧ e.error = .HostNameMismatch ∧ r.checkSubjectName separator e.certificate then
        { r with ignored := errors }
      else r
    | _ => r

/-- The certificate is one for the host. -/
def IsFor (cert : QSslCertificate) (host : List Char) : Prop :=
  host ∈ cert.commonNames ∨ ∃ pattern ∈ cert.dnsEntries, Names pattern host

instance (cert : QSslCertificate) (host : List Char) : Decidable (IsFor cert host) :=
  inferInstanceAs (Decidable (_ ∨ ∃ pattern ∈ cert.dnsEntries, _))

/-- The pattern matches the host only as a glob or only as the name of a domain. -/
inductive Deviates (separator : Char → Bool) : List Char → List Char → Prop
  | case {pattern host : List Char} : Plain pattern → fold pattern = fold host → pattern ≠ host →
      Deviates separator pattern host
  | span {suffix x : List Char} : Plain suffix → (∀ c ∈ x, separator c = false) → ¬ IsLabel x →
      Deviates separator ('*' :: '.' :: suffix) (x ++ '.' :: suffix)
  | missed {suffix label rest : List Char} : Plain suffix → IsLabel label → fold suffix = fold rest →
      (suffix ≠ rest ∨ ∃ c ∈ label, separator c = true) →
      Deviates separator ('*' :: '.' :: suffix) (label ++ '.' :: rest)
  | other {pattern host : List Char} : ¬ Plain pattern → (∀ suffix, pattern = '*' :: '.' :: suffix → ¬ Plain suffix) →
      ¬ (globMatches separator pattern host = true ↔ Names pattern host) → Deviates separator pattern host

variable {separator : Char → Bool} {r : SslRequest} {cert : QSslCertificate} {errors : List QSslError}
  {pattern host suffix label rest x : List Char}

lemma length_eq_of_fold (h : fold suffix = fold rest) : suffix.length = rest.length := by
  simpa [fold] using congrArg List.length h

lemma Plain.no_star (h : Plain pattern) : '*' ∉ pattern := fun hm => (h _ hm).1 rfl

lemma split_unique (hl : suffix.length = rest.length) (h : x ++ '.' :: suffix = label ++ '.' :: rest) :
    x = label ∧ suffix = rest := by
  obtain ⟨hx, hs⟩ := List.append_inj' h (by simp [hl])
  exact ⟨hx, (List.cons.inj hs).2⟩

lemma globMatches_label (h : Plain suffix) : globMatches separator ('*' :: '.' :: suffix) host = true ↔
    ∃ x, host = x ++ '.' :: suffix ∧ ∀ c ∈ x, separator c = false := by
  apply globMatches_star
  rw [Plain, List.forall_mem_cons]
  exact ⟨by decide, h⟩

lemma Deviates.not_iff (h : Deviates separator pattern host) :
    ¬ (globMatches separator pattern host = true ↔ Names pattern host) := by
  induction h with
  | case hp hf hn =>
    rw [globMatches_plain hp, names_of_no_star (Plain.no_star hp)]
    exact fun h => hn (h.mpr hf)
  | @span suffix x hp hs hx =>
    rw [globMatches_label hp, names_star]
    intro h
    obtain ⟨-, label, rest, he, hl, hf⟩ := h.mp ⟨x, rfl, hs⟩
    obtain ⟨rfl, -⟩ := split_unique (length_eq_of_fold hf) he
    exact hx hl
  | @missed suffix label rest hp hl hf hm =>
    rw [globMatches_label hp, names_star]
    intro h
    obtain ⟨x, he, hs⟩ := h.mpr ⟨Plain.no_star hp, label, rest, rfl, hl, hf⟩
    obtain ⟨rfl, rfl⟩ := split_unique (length_eq_of_fold hf).symm he
    rcases hm with hm | ⟨c, hc, hm⟩
    · exact hm rfl
    · simp [hs c hc] at hm
  | other _ _ h => exact h

lemma deviates_iff : Deviates separator pattern host ↔
    ¬ (globMatches separator pattern host = true ↔ Names pattern host) := by
  refine ⟨Deviates.not_iff, fun h => ?_⟩
  by_cases hp : Plain pattern
  · rw [globMatches_plain hp, names_of_no_star (Plain.no_star hp)] at h
    by_cases he : pattern = host
    · exact absurd (iff_of_true he (congrArg fold he)) h
    · by_cases hf : fold pattern = fold host
      · exact .case hp hf he
      · exact absurd (iff_of_false he hf) h
  by_cases hs : ∃ suffix, pattern = '*' :: '.' :: suffix ∧ Plain suffix
  · obtain ⟨suffix, rfl, hs⟩ := hs
    rw [globMatches_label hs, names_star] at h
    by_cases hg : ∃ x, host = x ++ '.' :: suffix ∧ ∀ c ∈ x, separator c = false
    · have hx := hg
      obtain ⟨x, rfl, hx⟩ := hx
      apply Deviates.span hs hx
      intro hl
      exact h (iff_of_true hg ⟨Plain.no_star hs, x, suffix, rfl, hl, rfl⟩)
    · by_cases hn : '*' ∉ suffix ∧ ∃ label rest, host = label ++ '.' :: rest ∧ IsLabel label ∧ fold suffix = fold rest
      · obtain ⟨-, label, rest, rfl, hl, hf⟩ := hn
        apply Deviates.missed hs hl hf
        by_contra hm
        obtain ⟨hm, hc⟩ := not_or.mp hm
        refine hg ⟨label, by rw [not_not.mp hm], fun c hl => ?_⟩
        by_contra hc'
        exact hc ⟨c, hl, by simpa using hc'⟩
      · exact absurd (iff_of_false hg hn) h
  · exact .other hp (fun suffix he hp => hs ⟨suffix, he, hp⟩) h

lemma checkSubjectName_iff : r.checkSubjectName separator cert = true ↔ r.hostname ∈ cert.commonNames ∨
    ∃ pattern ∈ cert.dnsEntries, globMatches separator pattern r.hostname = true := by
  simp [checkSubjectName]

/-- Errors are ignored only for a certificate whose check succeeds, in a request with a header for its host. -/
lemma ignored_sslErrors (hi : r.ignored = []) (h : (r.sslErrors separator errors).ignored ≠ []) :
    ∃ e, errors = [e] ∧ e.error = .HostNameMismatch ∧ r.hostHeader.isSome = true ∧
      r.checkSubjectName separator e.certificate = true := by
  rw [sslErrors.eq_def] at h
  by_cases hr : r.reply = none
  · rw [if_pos hr] at h
    exact absurd hi h
  rw [if_neg hr] at h
  split at h
  · split_ifs at h with hc
    · exact ⟨_, rfl, hc.2.1, hc.1, hc.2.2⟩
    · exact absurd hi h
  · exact absurd hi h

/-- The check is that of the names of domains, just if no alternative name deviates or others make up for it. -/
theorem checks_iff (separator : Char → Bool) (r : SslRequest) (cert : QSslCertificate) :
    (r.checkSubjectName separator cert = true ↔ IsFor cert r.hostname) ↔
      r.hostname ∈ cert.commonNames ∨ (∀ pattern ∈ cert.dnsEntries, ¬ Deviates separator pattern r.hostname) ∨
        (∃ pattern ∈ cert.dnsEntries, globMatches separator pattern r.hostname = true) ∧
          ∃ pattern ∈ cert.dnsEntries, Names pattern r.hostname := by
  simp only [checkSubjectName_iff, IsFor, deviates_iff, not_not]
  by_cases hc : r.hostname ∈ cert.commonNames
  · simp [hc]
  · simp only [hc, false_or]
    constructor
    · intro h
      by_cases hg : ∃ pattern ∈ cert.dnsEntries, globMatches separator pattern r.hostname = true
      · exact Or.inr ⟨hg, h.mp hg⟩
      · left
        intro pattern hm
        exact iff_of_false (fun h => hg ⟨pattern, hm, h⟩) (fun hn => hg (h.mpr ⟨pattern, hm, hn⟩))
    · rintro (h | ⟨hg, hn⟩)
      · exact exists_congr fun pattern => and_congr_right fun hm => h pattern hm
      · exact iff_of_true hg hn

/-- A star of a file glob stands for several labels. -/
theorem not_checks_two_labels :
    let r : SslRequest := { hostHeader := "a.b.example.com".toList, reply := "10.0.0.1".toList }
    let cert : QSslCertificate := ⟨[], ["*.example.com".toList]⟩
    ¬ (r.checkSubjectName (· == '/') cert = true ↔ IsFor cert r.hostname) := by
  decide +kernel

end SslRequest

end VpnClient.Network
