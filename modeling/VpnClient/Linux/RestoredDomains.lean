import VpnClient.Library.Runs
import VpnClient.Linux.DnsUtilsLinux

/-! The domains that the links have once the resolvers are restored and every reply is handled. -/

namespace VpnClient.Linux

open Address Library.Runs

namespace Resolver

variable {r : Resolver} {link i : ℕ} {ds : List DnsLinkDomain}

lemma mem_links_setDomains : link ∈ (r.setDomains i ds).links ↔ link ∈ r.links := by
  rw [setDomains]
  split
  · next h =>
    rw [AList.mem_insert]
    exact ⟨fun hm => hm.elim (fun he => he ▸ h) id, .inr⟩
  · exact Iff.rfl

lemma domains_setDomains :
    (r.setDomains i ds).domains link = if link = i ∧ link ∈ r.links then ds else r.domains link := by
  rw [setDomains]
  by_cases h : i ∈ r.links
  · rw [dif_pos h]
    by_cases hl : link = i
    · subst hl
      simp [domains, h]
    · simp [domains, hl]
  · rw [dif_neg h, if_neg]
    rintro ⟨rfl, hm⟩
    exact h hm

lemma domains_setDomains_of_mem (h : link ∈ r.links) :
    (r.setDomains i ds).domains link = if link = i then ds else r.domains link := by
  simp [domains_setDomains, h]

@[simp] lemma mem_links_process (q : Request) : link ∈ (r.process q).links ↔ link ∈ r.links := by
  cases q with
  | SetLinkDomains i ds => exact mem_links_setDomains
  | RevertLink i => exact mem_links_setDomains
  | SetLinkDNS i rs => exact Iff.rfl
  | SetLinkDefaultRoute i b => exact Iff.rfl
  | GetDomains => exact Iff.rfl

@[simp] lemma mem_links_foldl (qs : List Request) : link ∈ (qs.foldl process r).links ↔ link ∈ r.links := by
  induction qs generalizing r with
  | nil => exact Iff.rfl
  | cons q qs ih => exact ih.trans (mem_links_process q)

section

variable {A : Type} {key : A → ℕ} {val : A → List DnsLinkDomain} {as : List A}

lemma domains_foldl_of_ne (h : ∀ a ∈ as, key a ≠ link) :
    ((as.map fun a => Request.SetLinkDomains (key a) (val a)).foldl process r).domains link = r.domains link := by
  induction as generalizing r with
  | nil => rfl
  | cons a as ih =>
    obtain ⟨ha, has⟩ := List.forall_mem_cons.mp h
    rw [List.map_cons, List.foldl_cons, ih has]
    exact domains_setDomains.trans (if_neg fun hc => ha hc.1.symm)

lemma domains_foldl_of_mem (hl : link ∈ r.links) (hv : ∀ a ∈ as, key a = link → val a = ds)
    (h : ∃ a ∈ as, key a = link) :
    ((as.map fun a => Request.SetLinkDomains (key a) (val a)).foldl process r).domains link = ds := by
  induction as generalizing r with
  | nil => simp at h
  | cons a as ih =>
    obtain ⟨ha, has⟩ := List.forall_mem_cons.mp hv
    rw [List.map_cons, List.foldl_cons]
    by_cases hm : ∃ a ∈ as, key a = link
    · exact ih ((mem_links_process _).mpr hl) has hm
    · have hk : key a = link := by
        obtain ⟨b, hb, hk⟩ := h
        rcases List.mem_cons.mp hb with rfl | hb
        · exact hk
        · exact absurd ⟨b, hb, hk⟩ hm
      rw [domains_foldl_of_ne fun b hb hkb => hm ⟨b, hb, hkb⟩]
      exact domains_setDomains.trans ((if_pos ⟨hk.symm, hl⟩).trans (ha hk))

end

end Resolver

namespace DnsUtilsLinux

/-- What a reply says about a link. -/
def listOf (reply : List DnsDomain) (link : ℕ) : List DnsLinkDomain :=
  (reply.filter fun d => d.ifindex = link).map fun d => ⟨d.domain, d.search⟩

/-- The resolver once it has processed everything that was sent. -/
def effective (s : DnsUtilsLinux) : Resolver := s.sent.foldl Resolver.process s.resolver

variable {s : DnsUtilsLinux} {link : ℕ} {reply : List DnsDomain} {ds : List DnsLinkDomain}

lemma effective_send (requests : List Request) :
    (s.send requests).effective = requests.foldl Resolver.process s.effective := List.foldl_append ..

lemma effective_process : s.process.effective = s.effective := by
  unfold process effective
  cases h : s.sent with
  | nil => simp [h]
  | cons q qs => cases q <;> rfl

lemma lookup_collect (hl : link ≠ 0) :
    (collect reply).lookup link = if listOf reply link = [] then none else some (listOf reply link) := by
  have hf : ∀ (reply : List DnsDomain) (links : LinkDomains),
      (reply.foldl (fun links d =>
        if d.ifindex = 0 then links
        else links.insert d.ifindex ((links.lookup d.ifindex).getD [] ++ [⟨d.domain, d.search⟩])) links).lookup link =
      if listOf reply link = [] then links.lookup link
      else some ((links.lookup link).getD [] ++ listOf reply link) := by
    intro reply
    induction reply with
    | nil => exact fun links => (if_pos rfl).symm
    | cons d reply ih =>
      intro links
      rw [List.foldl_cons, ih]
      by_cases hd : d.ifindex = link
      · have hc : listOf (d :: reply) link = ⟨d.domain, d.search⟩ :: listOf reply link := by simp [listOf, hd]
        rw [hc, if_neg (List.cons_ne_nil _ _), hd, if_neg hl, AList.lookup_insert]
        by_cases hn : listOf reply link = []
        · rw [if_pos hn, hn]
        · rw [if_neg hn, Option.getD_some, List.append_assoc, List.singleton_append]
      · have hc : listOf (d :: reply) link = listOf reply link := by simp [listOf, hd]
        rw [hc]
        by_cases h₀ : d.ifindex = 0
        · rw [if_pos h₀]
        · rw [if_neg h₀, AList.lookup_insert_ne (Ne.symm hd)]
  have hr := hf reply ∅
  simpa [collect] using hr

lemma collect_of_mem (hl : link ≠ 0) (h : ds ∈ (collect reply).lookup link) :
    ds = listOf reply link ∧ listOf reply link ≠ [] := by
  rw [lookup_collect hl] at h
  split at h
  · cases h
  · next hn => exact ⟨(Option.some.inj h).symm, hn⟩

lemma lookup_collect_getD (hl : link ≠ 0) (ds : List DnsLinkDomain) :
    ((collect reply).lookup link).getD ds = if listOf reply link = [] then ds else listOf reply link := by
  rw [lookup_collect hl]
  split <;> rfl

lemma ne_zero_of_mem (h : link ∈ s.effective.links) : link ≠ 0 := by
  rintro rfl
  exact s.effective.nonzero h

lemma effective_restoreResolvers : s.restoreResolvers.effective =
    let r := (s.linkDomains.entries.map fun e => Request.SetLinkDomains e.1 e.2).foldl Resolver.process s.effective
    if s.ifindex > 0 then r.setDomains s.ifindex [] else r := by
  rw [restoreResolvers]
  dsimp only
  split
  · next h =>
    rw [if_pos (show s.ifindex > 0 from h)]
    exact (effective_send (s := s.send _) _).trans (congrArg (Resolver.setDomains s.ifindex []) (effective_send _))
  · next h =>
    rw [if_neg (show ¬s.ifindex > 0 from h)]
    exact effective_send (s := s) (s.linkDomains.entries.map fun e => .SetLinkDomains e.1 e.2)

lemma domains_restoreResolvers (hl : link ∈ s.effective.links) :
    s.restoreResolvers.effective.domains link =
      if link = s.ifindex then [] else (s.linkDomains.lookup link).getD (s.effective.domains link) := by
  have hs : ((s.linkDomains.entries.map fun e => Request.SetLinkDomains e.1 e.2).foldl Resolver.process
      s.effective).domains link = (s.linkDomains.lookup link).getD (s.effective.domains link) := by
    cases hd : s.linkDomains.lookup link with
    | none =>
      refine Resolver.domains_foldl_of_ne fun e he hk => ?_
      have hm : link ∈ s.linkDomains := hk ▸ AList.mem_keys.mpr (List.mem_map_of_mem he)
      exact AList.lookup_eq_none.mp hd hm
    | some ds =>
      refine Resolver.domains_foldl_of_mem hl (fun e he hk => ?_) ⟨⟨link, ds⟩, AList.mem_lookup_iff.mp hd, rfl⟩
      obtain ⟨k, v⟩ := e
      obtain rfl : k = link := hk
      have hv : s.linkDomains.lookup k = some v := AList.mem_lookup_iff.mpr he
      exact Option.some.inj (hv.symm.trans hd)
  rw [effective_restoreResolvers]
  dsimp only
  split
  · rw [Resolver.domains_setDomains_of_mem ((Resolver.mem_links_foldl _).mpr hl), hs]
  · have hne : link ≠ s.ifindex := fun he => ne_zero_of_mem hl (by omega)
    rw [if_neg hne, hs]

lemma mem_links_restoreResolvers : link ∈ s.restoreResolvers.effective.links ↔ link ∈ s.effective.links := by
  rw [effective_restoreResolvers]
  dsimp only
  split
  · rw [Resolver.mem_links_setDomains, Resolver.mem_links_foldl]
  · rw [Resolver.mem_links_foldl]

lemma domains_dnsDomainsReceived (hl : link ∈ s.effective.links) :
    (s.dnsDomainsReceived reply).effective.domains link =
      if link = s.ifindex then [root]
      else if root ∈ listOf reply link then (listOf reply link).filter (· ≠ root) else s.effective.domains link := by
  have h₀ := ne_zero_of_mem hl
  have hd : ((dropRoot (collect reply)).foldl Resolver.process s.effective).domains link =
      if root ∈ listOf reply link then (listOf reply link).filter (· ≠ root) else s.effective.domains link := by
    split
    · next hr =>
      refine Resolver.domains_foldl_of_mem hl (fun e he hk => ?_)
        ⟨⟨link, listOf reply link⟩, List.mem_filter.mpr ⟨AList.mem_lookup_iff.mp ?_, by simpa using hr⟩, rfl⟩
      · obtain ⟨k, v⟩ := e
        obtain rfl : k = link := hk
        rw [(collect_of_mem h₀ (AList.mem_lookup_iff.mpr (List.mem_filter.mp he).1)).1]
      · rw [lookup_collect h₀, if_neg (List.ne_nil_of_mem hr)]
        rfl
    · next hr =>
      refine Resolver.domains_foldl_of_ne fun e he hk => hr ?_
      obtain ⟨k, v⟩ := e
      obtain rfl : k = link := hk
      obtain ⟨he, hv⟩ := List.mem_filter.mp he
      rw [← (collect_of_mem h₀ (AList.mem_lookup_iff.mpr he)).1]
      exact of_decide_eq_true hv
  have he : (s.dnsDomainsReceived reply).effective =
      ((dropRoot (collect reply)).foldl Resolver.process s.effective).setDomains s.ifindex [root] := by
    apply (effective_send _).trans
    rw [effective_send]
    rfl
  rw [he, Resolver.domains_setDomains_of_mem ((Resolver.mem_links_foldl _).mpr hl), hd]

lemma mem_links_dnsDomainsReceived :
    link ∈ (s.dnsDomainsReceived reply).effective.links ↔ link ∈ s.effective.links := by
  rw [dnsDomainsReceived]
  rw [effective_send, effective_send, Resolver.mem_links_foldl, Resolver.mem_links_foldl]
  exact Iff.rfl

end DnsUtilsLinux

/-- The object with what is to be restored: the domains before the first update since the last restore, and the
interfaces that were updated since. -/
structure WatchedResolvers where
  utils : DnsUtilsLinux
  original : ℕ → List DnsLinkDomain
  tunnels : List ℕ := []
  restored : Bool := true

namespace WatchedResolvers

open DnsUtilsLinux

inductive Event where
  | updateResolvers (ifindex : ℕ) (resolvers : List QHostAddress)
  | restoreResolvers
  | process
  | receive (i : ℕ)

def updateResolvers (ifindex : ℕ) (resolvers : List QHostAddress) (w : WatchedResolvers) : WatchedResolvers where
  utils := w.utils.updateResolvers ifindex resolvers
  original := if w.restored then w.utils.effective.domains else w.original
  tunnels := (if w.restored then [] else w.tunnels) ++ if ifindex = 0 then [] else [ifindex]
  restored := false

def step (w : WatchedResolvers) : Event → WatchedResolvers
  | .updateResolvers ifindex resolvers => w.updateResolvers ifindex resolvers
  | .restoreResolvers => { w with utils := w.utils.restoreResolvers, restored := true }
  | .process => { w with utils := w.utils.process }
  | .receive i => { w with utils := w.utils.receive i }

/-- Everything that was sent is processed and every reply is handled. -/
def Quiet (w : WatchedResolvers) : Prop := w.utils.sent = [] ∧ w.utils.replies = []
  deriving Decidable

/-- The links other than the tunnel have the domains that they had, and the tunnel has no root domain. -/
def Restored (w : WatchedResolvers) : Prop :=
  ∀ link ∈ w.utils.resolver.links.keys,
    if link ∈ w.tunnels then root ∉ w.utils.resolver.domains link
    else w.utils.resolver.domains link = w.original link
  deriving Decidable

/-- What a reply must say when it is handled. After a restore it carries the domains as they are, none of them root.
Before, it carries the original domains, and does not find root where an earlier update has left it. -/
def Faithful (w : WatchedResolvers) (reply : List DnsDomain) : Prop :=
  if w.restored then
    ∀ link ∈ w.utils.resolver.links.keys,
      listOf reply link = w.utils.effective.domains link ∧ root ∉ listOf reply link
  else
    ∀ link ∈ w.utils.resolver.links.keys,
      if link ∈ w.tunnels then link ≠ w.utils.ifindex → root ∉ listOf reply link
      else listOf reply link = w.original link
  deriving Decidable

/-- An update leaves another interface only if it has no root domain, now or in what is saved. -/
def Leaves (w : WatchedResolvers) (ifindex : ℕ) : Prop :=
  ifindex ≠ w.utils.ifindex → root ∉ w.utils.effective.domains w.utils.ifindex ∧
    root ∉ (w.utils.linkDomains.lookup w.utils.ifindex).getD []
  deriving Decidable

/-- The condition on a step. -/
def Undisturbed (w : WatchedResolvers) : Event → Prop
  | .updateResolvers ifindex _ => w.restored = false → w.Leaves ifindex
  | .receive i => ∀ reply ∈ w.utils.replies[i]?, w.Faithful reply
  | .restoreResolvers | .process => True

instance decidableUndisturbed (w : WatchedResolvers) : (e : Event) → Decidable (w.Undisturbed e)
  | .updateResolvers ifindex _ => inferInstanceAs (Decidable (_ → w.Leaves ifindex))
  | .receive i => inferInstanceAs (Decidable (∀ reply ∈ w.utils.replies[i]?, w.Faithful reply))
  | .restoreResolvers | .process => isTrue trivial

/-- What steps that meet the condition keep: restoring would bring back the original domains of every link but the
tunnel, and no interface that was left keeps a root domain. -/
structure Inv (w : WatchedResolvers) : Prop where
  tunnel : w.utils.ifindex ≠ 0 → w.utils.ifindex ∈ w.tunnels ∧ w.restored = false
  zero : 0 ∉ w.tunnels
  saved : ∀ link ∈ w.utils.effective.links, link ∉ w.tunnels →
    (w.utils.linkDomains.lookup link).getD (w.utils.effective.domains link) = w.original link
  left : ∀ link ∈ w.utils.effective.links, link ∈ w.tunnels → link ≠ w.utils.ifindex →
    root ∉ w.utils.effective.domains link ∧ root ∉ (w.utils.linkDomains.lookup link).getD []
  nonempty : ∀ link ∈ w.utils.effective.links, ∀ ds ∈ w.utils.linkDomains.lookup link, ds ≠ []
  restored : w.restored = true → ∀ link ∈ w.utils.effective.links,
    (w.utils.linkDomains.lookup link).getD (w.utils.effective.domains link) = w.utils.effective.domains link

variable {w : WatchedResolvers} {ifindex i : ℕ} {resolvers : List QHostAddress} {reply : List DnsDomain}

lemma effective_updateResolvers (s : DnsUtilsLinux) (ifindex : ℕ) (resolvers : List QHostAddress) :
    (s.updateResolvers ifindex resolvers).effective = s.effective ∧
      (s.updateResolvers ifindex resolvers).linkDomains = s.linkDomains ∧
      (s.updateResolvers ifindex resolvers).ifindex = ifindex := by
  rw [DnsUtilsLinux.updateResolvers]
  dsimp only
  split
  · exact ⟨rfl, rfl, rfl⟩
  · exact ⟨effective_send (s := s) _, rfl, rfl⟩

lemma inv_updateResolvers (h : w.Inv) (hc : w.Undisturbed (.updateResolvers ifindex resolvers)) :
    (w.updateResolvers ifindex resolvers).Inv := by
  obtain ⟨he, hd, hi⟩ := effective_updateResolvers w.utils ifindex resolvers
  have ht : ∀ link, link ∈ (w.updateResolvers ifindex resolvers).tunnels ↔
      (w.restored = false ∧ link ∈ w.tunnels) ∨ (ifindex ≠ 0 ∧ link = ifindex) := by
    intro link
    rw [updateResolvers]
    cases w.restored <;> by_cases h₀ : ifindex = 0 <;> simp [h₀]
  refine ⟨fun h₀ => ⟨?_, rfl⟩, ?_, fun link hl hn => ?_, fun link hl hm hne => ?_, ?_, fun hr => by cases hr⟩
  · exact (ht _).mpr (.inr ⟨hi ▸ h₀, hi⟩)
  · intro hm
    rcases (ht 0).mp hm with ⟨-, hm⟩ | ⟨h₀, h₁⟩
    · exact h.zero hm
    · exact h₀ h₁.symm
  · simp only [updateResolvers, he, hd] at hl ⊢
    cases hr : w.restored with
    | true => simpa using h.restored hr link hl
    | false => simpa using h.saved link hl fun hm => hn ((ht link).mpr (.inl ⟨hr, hm⟩))
  · simp only [updateResolvers, he, hd, hi] at hl hne ⊢
    rcases (ht link).mp hm with ⟨hr, hm⟩ | ⟨-, rfl⟩
    · by_cases hw : link = w.utils.ifindex
      · subst hw
        exact hc hr (Ne.symm hne)
      · exact h.left link hl hm hw
    · exact absurd rfl hne
  · simp only [updateResolvers, he, hd]
    exact h.nonempty

lemma inv_restoreResolvers (h : w.Inv) : (w.step .restoreResolvers).Inv := by
  have hi : w.utils.restoreResolvers.ifindex = 0 := by
    rw [DnsUtilsLinux.restoreResolvers]
    dsimp only
    split
    · rfl
    · next h₀ => exact Nat.eq_zero_of_not_pos h₀
  have hd : w.utils.restoreResolvers.linkDomains = ∅ := by
    rw [DnsUtilsLinux.restoreResolvers]
    dsimp only
    split <;> rfl
  refine ⟨fun h₀ => absurd hi h₀, h.zero, fun link hl hn => ?_, fun link hl hm _ => ?_, ?_, fun _ link hl => ?_⟩
  · have hl := mem_links_restoreResolvers.mp hl
    have hne : link ≠ w.utils.ifindex := fun he => hn (he ▸ (h.tunnel (he ▸ ne_zero_of_mem hl)).1)
    simp only [step, hd, AList.lookup_empty, Option.getD_none, domains_restoreResolvers hl, if_neg hne]
    exact h.saved link hl hn
  · have hl := mem_links_restoreResolvers.mp hl
    simp only [step, hd, AList.lookup_empty, Option.getD_none, domains_restoreResolvers hl]
    refine ⟨?_, List.not_mem_nil⟩
    split
    · exact List.not_mem_nil
    · next hne =>
      obtain ⟨h₁, h₂⟩ := h.left link hl hm hne
      cases hv : w.utils.linkDomains.lookup link with
      | none => exact h₁
      | some ds => simpa [hv] using h₂
  · simp [step, hd]
  · simp [step, hd]

lemma inv_process (h : w.Inv) : (w.step .process).Inv := by
  have he : w.utils.process.effective = w.utils.effective := effective_process
  have hu : w.utils.process.ifindex = w.utils.ifindex ∧ w.utils.process.linkDomains = w.utils.linkDomains := by
    rw [DnsUtilsLinux.process]
    split <;> exact ⟨rfl, rfl⟩
  obtain ⟨hi, hd⟩ := hu
  constructor <;> simp only [step, he, hi, hd]
  · exact h.tunnel
  · exact h.zero
  · exact h.saved
  · exact h.left
  · exact h.nonempty
  · exact h.restored

lemma receive_cases : w.step (.receive i) = w ∨ ∃ reply ∈ w.utils.replies[i]?, ∃ replies,
    w.step (.receive i) = { w with utils := { w.utils with replies }.dnsDomainsReceived reply } := by
  cases hr : w.utils.replies[i]? with
  | none => exact .inl (by simp only [step, DnsUtilsLinux.receive, hr])
  | some reply => exact .inr ⟨reply, rfl, w.utils.replies.eraseIdx i, by simp only [step, DnsUtilsLinux.receive, hr]⟩

section

variable {link : ℕ}

lemma Faithful.of_restored (hf : w.Faithful reply) (hr : w.restored = true) (hl : link ∈ w.utils.effective.links) :
    listOf reply link = w.utils.effective.domains link ∧ root ∉ listOf reply link := by
  rw [Faithful, if_pos hr] at hf
  exact hf link ((Resolver.mem_links_foldl _).mp hl)

lemma Faithful.of_not_restored (hf : w.Faithful reply) (hr : w.restored = false)
    (hl : link ∈ w.utils.effective.links) :
    if link ∈ w.tunnels then link ≠ w.utils.ifindex → root ∉ listOf reply link
    else listOf reply link = w.original link := by
  rw [Faithful, if_neg (ne_true_of_eq_false hr)] at hf
  exact hf link ((Resolver.mem_links_foldl _).mp hl)

lemma Inv.ne_ifindex (h : w.Inv) (hl : link ∈ w.utils.effective.links) (hn : w.restored = true ∨ link ∉ w.tunnels) :
    link ≠ w.utils.ifindex := by
  rintro rfl
  obtain ⟨hm, hr⟩ := h.tunnel (ne_zero_of_mem hl)
  rcases hn with ht | hn
  · exact absurd (hr.symm.trans ht) Bool.false_ne_true
  · exact hn hm

lemma Inv.domains_of_restored (h : w.Inv) (hr : w.restored = true) (hf : w.Faithful reply)
    (hl : link ∈ w.utils.effective.links) :
    (w.utils.dnsDomainsReceived reply).effective.domains link = w.utils.effective.domains link := by
  rw [domains_dnsDomainsReceived hl, if_neg (h.ne_ifindex hl (.inl hr)), if_neg (hf.of_restored hr hl).2]

lemma Inv.restored_dnsDomainsReceived (h : w.Inv) (hr : w.restored = true) (hf : w.Faithful reply)
    (hl : link ∈ w.utils.effective.links) :
    ((collect reply).lookup link).getD ((w.utils.dnsDomainsReceived reply).effective.domains link) =
      (w.utils.dnsDomainsReceived reply).effective.domains link := by
  rw [h.domains_of_restored hr hf hl, lookup_collect_getD (ne_zero_of_mem hl), (hf.of_restored hr hl).1, ite_id]

lemma Inv.saved_dnsDomainsReceived (h : w.Inv) (hf : w.Faithful reply) (hl : link ∈ w.utils.effective.links)
    (hn : link ∉ w.tunnels) :
    ((collect reply).lookup link).getD ((w.utils.dnsDomainsReceived reply).effective.domains link) =
      w.original link := by
  have hs := h.saved link hl hn
  cases hr : w.restored with
  | true =>
    rw [h.restored_dnsDomainsReceived hr hf hl, h.domains_of_restored hr hf hl, ← hs, h.restored hr link hl]
  | false =>
    have ho : listOf reply link = w.original link := (if_neg hn).mp (hf.of_not_restored hr hl)
    rw [lookup_collect_getD (ne_zero_of_mem hl)]
    split
    · next he =>
      have hne := h.ne_ifindex hl (.inr hn)
      rw [domains_dnsDomainsReceived hl, if_neg hne, if_neg (by simp [he])]
      cases hd : w.utils.linkDomains.lookup link with
      | none => simpa [hd] using hs
      | some ds => 
        rw [hd, Option.getD_some] at hs
        exact absurd (hs.trans (ho.symm.trans he)) (h.nonempty link hl ds hd)
    · exact ho

lemma Faithful.root_notMem (hf : w.Faithful reply) (hl : link ∈ w.utils.effective.links)
    (hm : link ∈ w.tunnels) (hne : link ≠ w.utils.ifindex) : root ∉ listOf reply link := by
  cases hr : w.restored with
  | true => exact (hf.of_restored hr hl).2
  | false =>
    have hn := hf.of_not_restored hr hl
    rw [if_pos hm] at hn
    exact hn hne

end

lemma inv_dnsDomainsReceived (h : w.Inv) (hf : w.Faithful reply) :
    { w with utils := w.utils.dnsDomainsReceived reply : WatchedResolvers }.Inv where
  tunnel := h.tunnel
  zero := h.zero
  saved link hl := h.saved_dnsDomainsReceived hf (mem_links_dnsDomainsReceived.mp hl)
  left link hl hm hne := by
    have hl := mem_links_dnsDomainsReceived.mp hl
    have hr := hf.root_notMem hl hm hne
    constructor
    · rw [domains_dnsDomainsReceived hl, if_neg (show link ≠ w.utils.ifindex from hne), if_neg hr]
      exact (h.left link hl hm hne).1
    · refine (lookup_collect_getD (ne_zero_of_mem hl) []).symm ▸ ?_
      split
      · exact List.not_mem_nil
      · exact hr
  nonempty link hl ds hd := by
    obtain ⟨rfl, hn⟩ := collect_of_mem (ne_zero_of_mem (mem_links_dnsDomainsReceived.mp hl)) hd
    exact hn
  restored hr link hl := h.restored_dnsDomainsReceived hr hf (mem_links_dnsDomainsReceived.mp hl)

lemma Inv.of_replies (h : w.Inv) (replies : List (List DnsDomain)) :
    { w with utils := { w.utils with replies } : WatchedResolvers }.Inv :=
  ⟨h.tunnel, h.zero, h.saved, h.left, h.nonempty, h.restored⟩

lemma inv_receive (h : w.Inv) (hc : w.Undisturbed (.receive i)) : (w.step (.receive i)).Inv := by
  rcases receive_cases (w := w) (i := i) with he | ⟨reply, hr, replies, he⟩
  · exact he.symm ▸ h
  · exact he.symm ▸ inv_dnsDomainsReceived (h.of_replies replies) (hc reply hr)

lemma inv_step (h : w.Inv) {e : Event} (hc : w.Undisturbed e) : (w.step e).Inv := by
  cases e with
  | updateResolvers ifindex resolvers => exact inv_updateResolvers h hc
  | restoreResolvers => exact inv_restoreResolvers h
  | process => exact inv_process h
  | receive i => exact inv_receive h hc

/-- The object before any call, with the resolver of the system in any state. -/
def initial (resolver : Resolver) : WatchedResolvers where
  utils := { resolver }
  original := resolver.domains

lemma inv_initial (resolver : Resolver) : (initial resolver).Inv where
  tunnel h := absurd rfl h
  zero := List.not_mem_nil
  saved _ _ _ := rfl
  left _ _ hm := absurd hm List.not_mem_nil
  nonempty _ _ _ hd := by simp [initial] at hd
  restored _ _ _ := rfl

lemma Inv.restored_of_quiet (h : w.Inv) (hr : w.restored = true) (hq : w.Quiet) : w.Restored := by
  have he : w.utils.effective = w.utils.resolver := by rw [effective, hq.1, List.foldl_nil]
  intro link hl
  have hl : link ∈ w.utils.effective.links := he.symm ▸ AList.mem_keys.mp hl
  have hi := h.ne_ifindex hl (.inl hr)
  split
  · next hm => exact he ▸ (h.left link hl hm hi).1
  · next hn => rw [← he, ← h.restored hr link hl, h.saved link hl hn]

lemma Inv.receive_of_restored (h : w.Inv) (hr : w.restored = true) (hc : w.Undisturbed (.receive i)) :
    ∀ link ∈ w.utils.effective.links,
      (w.utils.receive i).effective.domains link = w.utils.effective.domains link := by
  intro link hl
  rcases receive_cases (w := w) (i := i) with he | ⟨reply, hm, replies, he⟩
  · exact congrArg (fun w => w.utils.effective.domains link) he
  · exact (congrArg (fun w => w.utils.effective.domains link) he).trans
      ((h.of_replies replies).domains_of_restored hr (hc reply hm) hl)

/-- After a run of which every step meets the condition the resolvers are restored once everything is handled, and a
reply that meets it changes no link. -/
theorem restored_of_undisturbed (resolver : Resolver) (events : List Event)
    (h : Meets step Undisturbed (initial resolver) events)
    (hr : (run step (initial resolver) events).restored = true) :
    ((run step (initial resolver) events).Quiet → (run step (initial resolver) events).Restored) ∧
      ∀ i, (run step (initial resolver) events).Undisturbed (.receive i) →
        ∀ link ∈ (run step (initial resolver) events).utils.effective.links,
          ((run step (initial resolver) events).utils.receive i).effective.domains link =
            (run step (initial resolver) events).utils.effective.domains link :=
  have hi := h.invariant (fun _ _ hw hc => inv_step hw hc) (inv_initial resolver)
  ⟨hi.restored_of_quiet hr, fun _ => hi.receive_of_restored hr⟩

/-- A link with a root domain, and the link of the tunnel. -/
def twoLinks : Resolver where
  links := ⟨[⟨2, [⟨"lan", false⟩, root]⟩, ⟨7, []⟩], by simp [List.NodupKeys]⟩
  nonzero := by decide

/-- The calls of an update, once its reply is handled. -/
def updated : List Event :=
  [.updateResolvers 7 [], .process, .process, .process, .receive 0, .process, .process]

theorem restored_after_update :
    (run step (initial twoLinks) (updated ++ [.restoreResolvers, .process, .process])).Restored := by
  have hm : Meets step Undisturbed (initial twoLinks) (updated ++ [.restoreResolvers, .process, .process]) := by
    decide +kernel
  have hr : (run step (initial twoLinks) (updated ++ [.restoreResolvers, .process, .process])).restored = true := by
    decide +kernel
  have hq : (run step (initial twoLinks) (updated ++ [.restoreResolvers, .process, .process])).Quiet := by
    decide +kernel
  exact (restored_of_undisturbed twoLinks _ hm hr).1 hq

/-- Everything is handled after a restore, and still a link is not as it was. -/
def Spoilt (w : WatchedResolvers) : Prop := w.restored = true ∧ w.Quiet ∧ ¬w.Restored

instance (w : WatchedResolvers) : Decidable w.Spoilt := inferInstanceAs (Decidable (_ ∧ _))

/-- The reply of a second update, or one that arrives after a restore, loses a root domain. -/
theorem not_restored :
    (run step (initial twoLinks) (updated ++ updated ++ [.restoreResolvers, .process, .process, .process])).Spoilt ∧
      (run step (initial twoLinks)
        [.updateResolvers 7 [], .process, .process, .process, .restoreResolvers, .process, .receive 0, .process,
          .process]).Spoilt := by
  decide +kernel

end WatchedResolvers

end VpnClient.Linux
