import VpnClient.Windows.WinFwPolicy

/-! The transactions of the proxy add all of their filters or none, apart from one whose failures are overlooked. -/

namespace VpnClient.Windows.WinFwPolicy

open Library.Attempts Library.Attempts.Attempt Library.Transactions

variable (calls : PolicyCalls) (port : UInt16)

/-- The command whose quotation marks are stripped. -/
def considered (browser : Browser) : Option (List Char) :=
  if isInternetExplorer browser.name then none else browser.command.map String.toList

/-- The filters for a browser whose app id can be resolved. -/
def permitted (browser : Browser) : List PolicyFilter :=
  (((considered browser).bind strip).bind fun command => calls.appId (String.ofList command)).elim []
    (permitFilters port browser.name)

def restricted (browsers : List Browser) (e : Engine) : Engine where
  subLayers := if LOCALPROXY_FW_GUID ∈ e.subLayers then e.subLayers else e.subLayers ++ [LOCALPROXY_FW_GUID]
  filters := e.filters ++ (blockFilters port ++ browsers.flatMap (permitted calls port))

/-- The changes of the two functions are atomic, and no character of an empty string is read. -/
structure Atomic (browsers : List Browser) (changeType : UInt32) (subLayerKey : Guid) (p : WinFwPolicy) : Prop where
  proxy : (p.fwpmSublayerChanged calls changeType subLayerKey).engine.committed = p.engine.committed ∨
    ∃ appId ∈ calls.appId calls.moduleFileName,
      (p.fwpmSublayerChanged calls changeType subLayerKey).engine.committed =
        { p.engine.committed with filters := p.engine.committed.filters ++ proxyFilters appId }
  restrict : (p.restrictProxyPort calls port browsers).engine.committed = p.engine.committed ∨
    (p.restrictProxyPort calls port browsers).engine.committed = restricted calls port browsers p.engine.committed
  strip : (p.restrictProxyPort calls port browsers).emptyReads = p.emptyReads

/-- Each command that the loop comes to has another character than the quotation mark; `n` filters were added before. -/
def Readable : ℕ → List Browser → Prop
  | _, [] => True
  | n, browser :: browsers =>
    (∀ command ∈ considered browser, ∃ c ∈ command, c ≠ '"') ∧
      ((∀ i < (permitted calls port browser).length, calls.filterAdd (n + i) = true) →
        Readable (n + (permitted calls port browser).length) browsers)

structure Fits (browsers : List Browser) (changeType : UInt32) (subLayerKey : Guid) (p : WinFwPolicy) : Prop where
  proxy : changeType = FWPM_CHANGE_ADD → subLayerKey = KILLSWITCH_FW_GUID →
    calls.appId calls.moduleFileName ≠ none → calls.filterAdd p.adds = true → calls.filterAdd (p.adds + 1) = true →
    calls.commit = true → calls.filterAdd (p.adds + 2) = true ∧ calls.filterAdd (p.adds + 3) = true
  browsers : LOCALPROXY_FW_GUID ∈ p.engine.committed.subLayers ∨ calls.subLayerAdd = true →
    calls.filterAdd p.adds = true → calls.filterAdd (p.adds + 1) = true → Readable calls port (p.adds + 2) browsers

section Strip

variable {c : Char} {text command : List Char}

lemma mid_eq_dropLast : mid 1 ((c :: text).length - 2) (c :: text) = text.dropLast := by
  rw [mid, List.length_cons, List.dropLast_eq_take, List.drop_one, List.tail_cons]
  split
  · cases text with
    | nil => rfl
    | cons => simp at *; omega
  · congr 1
    omega

lemma getLast?_cons_eq_quote_iff (hc : c = '"') : (∀ d ∈ c :: text, d = '"') ↔
    (c :: text).getLast? = some '"' ∧ ∀ d ∈ text.dropLast, d = '"' := by
  subst hc
  induction text using List.reverseRecOn with
  | nil => simp
  | append_singleton text d => simp [or_imp, forall_and, and_comm, List.getLast?_cons]

lemma strip_eq_none_iff (command : List Char) : strip command = none ↔ ∀ c ∈ command, c = '"' := by
  induction command using strip.induct with
  | case1 => rw [strip]; simp
  | case2 c text h ih =>
    rw [strip, if_pos h, ih, mid_eq_dropLast, getLast?_cons_eq_quote_iff h.1, and_iff_right h.2]
  | case3 c text h =>
    rw [strip, if_neg h]
    refine iff_of_false (Option.some_ne_none _) fun hq => h ?_
    have hc := hq c List.mem_cons_self
    exact ⟨hc, ((getLast?_cons_eq_quote_iff hc).mp hq).1⟩

end Strip

variable {calls port} {p : WinFwPolicy} {e : Engine} {browser : Browser}

/-- The policy after some filters were added in an open transaction. -/
def added (fs : List PolicyFilter) (e : Engine) (p : WinFwPolicy) : WinFwPolicy :=
  { p with
    adds := p.adds + fs.length
    engine := { p.engine with pending := some { e with filters := e.filters ++ fs } } }

lemma filterAdd_eq (h : p.engine.pending = some e) (filter : PolicyFilter) : filterAdd calls filter p =
    if calls.filterAdd p.adds then (true, p.added [filter] e) else (false, { p with adds := p.adds + 1 }) := by
  rw [filterAdd, added, Store.modify, h]
  rfl

variable (calls) in
lemma filterAdd_of_success (h : p.engine.pending = some e) (hf : calls.filterAdd p.adds = true)
    (filter : PolicyFilter) : filterAdd calls filter p = (true, p.added [filter] e) := by
  rw [filterAdd_eq h, if_pos hf]

variable (calls) in
lemma filterAdd_of_failure (h : p.engine.pending = some e) (hf : ¬calls.filterAdd p.adds = true)
    (filter : PolicyFilter) : filterAdd calls filter p = (false, { p with adds := p.adds + 1 }) := by
  rw [filterAdd_eq h, if_neg hf]

variable (calls) in
/-- The calls for some filters succeed together, or stop without a trace outside the transaction. -/
lemma forEach_filterAdd (h : p.engine.pending = some e) (fs : List PolicyFilter) :
    ((∀ i < fs.length, calls.filterAdd (p.adds + i) = true) ∧
        forEach (filterAdd calls) fs p = (true, p.added fs e)) ∨
      (¬∀ i < fs.length, calls.filterAdd (p.adds + i) = true) ∧
        (forEach (filterAdd calls) fs p).1 = false ∧
        (forEach (filterAdd calls) fs p).2.engine.committed = p.engine.committed ∧
        (forEach (filterAdd calls) fs p).2.emptyReads = p.emptyReads := by
  induction fs generalizing p e with
  | nil =>
    left
    refine ⟨by simp, ?_⟩
    rw [forEach, succeed, added]
    simp [← h]
  | cons f fs ih =>
    rw [forEach]
    by_cases hf : calls.filterAdd p.adds = true
    · have hs := filterAdd_of_success calls h hf f
      have hall : (∀ i < (f :: fs).length, calls.filterAdd (p.adds + i) = true) ↔
          ∀ i < fs.length, calls.filterAdd ((p.added [f] e).adds + i) = true := by
        constructor
        · intro h i hi
          rw [added, List.length_singleton, Nat.add_assoc, Nat.add_comm 1]
          exact h (i + 1) (Nat.succ_lt_succ hi)
        · intro h i hi
          cases i with
          | zero => exact hf
          | succ i =>
            have := h i (Nat.lt_of_succ_lt_succ hi)
            rwa [added, List.length_singleton, Nat.add_assoc, Nat.add_comm 1] at this
      rw [andThen_of_success (by rw [hs]), hs, hall]
      obtain ⟨ha, hr⟩ | ⟨ha, hr, hc, he⟩ := ih (p := p.added [f] e) rfl
      · refine .inl ⟨ha, ?_⟩
        rw [hr, added, added, added, List.append_assoc, Nat.add_assoc, Nat.add_comm [f].length]
        rfl
      · exact .inr ⟨ha, hr, hc, he⟩
    · have hs := filterAdd_of_failure calls h hf f
      right
      rw [andThen_of_failure (by rw [hs]), hs]
      exact ⟨fun hall => hf (hall 0 (Nat.succ_pos _)), rfl, rfl, rfl⟩

lemma permitBrowser_of_readable (h : ∀ command ∈ considered browser, ∃ c ∈ command, c ≠ '"') :
    permitBrowser calls port browser = forEach (filterAdd calls) (permitted calls port browser) := by
  rw [permitBrowser, permitted]
  rw [considered] at h ⊢
  cases hc : browser.command with
  | none =>
    dsimp only
    split <;> rfl
  | some value =>
    rw [hc] at h
    dsimp only
    split
    case isTrue => rfl
    case isFalse hi =>
      rw [if_neg hi] at h
      obtain ⟨c, hm, hq⟩ := h _ rfl
      have hs : strip value.toList ≠ none := fun hn => hq ((strip_eq_none_iff _).mp hn c hm)
      obtain ⟨command, hcommand⟩ := Option.ne_none_iff_exists'.mp hs
      rw [Option.map_some, Option.bind_some, hcommand, Option.bind_some]
      dsimp only
      cases calls.appId (String.ofList command) <;> rfl

variable (calls port p) in
lemma permitBrowser_of_not_readable (h : ¬∀ command ∈ considered browser, ∃ c ∈ command, c ≠ '"') :
    permitBrowser calls port browser p = (false, { p with emptyReads := p.emptyReads + 1 }) := by
  push Not at h
  obtain ⟨command, hm, hq⟩ := h
  rw [considered] at hm
  split at hm
  case isTrue => cases hm
  case isFalse hi =>
    obtain ⟨value, hv, rfl⟩ := Option.map_eq_some_iff.mp hm
    rw [permitBrowser, hv]
    dsimp only
    rw [if_neg hi, (strip_eq_none_iff _).mpr hq]

variable (calls port) in
/-- The loop over the browsers in an open transaction. -/
lemma forEach_permitBrowser (h : p.engine.pending = some e) (browsers : List Browser) :
    (forEach (permitBrowser calls port) browsers p).2.engine.committed = p.engine.committed ∧
      ((forEach (permitBrowser calls port) browsers p).1 = true →
        (forEach (permitBrowser calls port) browsers p).2.engine.pending =
          some { e with filters := e.filters ++ browsers.flatMap (permitted calls port) }) ∧
      ((forEach (permitBrowser calls port) browsers p).2.emptyReads = p.emptyReads ↔
        Readable calls port p.adds browsers) ∧
      p.emptyReads ≤ (forEach (permitBrowser calls port) browsers p).2.emptyReads := by
  induction browsers generalizing p e with
  | nil =>
    rw [forEach]
    refine ⟨rfl, fun _ => ?_, iff_of_true rfl trivial, le_rfl⟩
    rw [List.flatMap_nil, List.append_nil]
    exact h
  | cons browser browsers ih =>
    rw [forEach, Readable]
    by_cases hb : ∀ command ∈ considered browser, ∃ c ∈ command, c ≠ '"'
    · have hall := and_iff_right hb (b := (∀ i < (permitted calls port browser).length,
        calls.filterAdd (p.adds + i) = true) → Readable calls port (p.adds + (permitted calls port browser).length) browsers)
      rw [hall]
      obtain ⟨ha, hr⟩ | ⟨ha, hr, hc, he⟩ := forEach_filterAdd calls h (permitted calls port browser)
      · rw [← permitBrowser_of_readable hb] at hr
        obtain ⟨hc, hs, he, hle⟩ := ih (p := p.added (permitted calls port browser) e) rfl
        rw [andThen_of_success (by rw [hr]), hr]
        refine ⟨hc, fun h => ?_, he.trans (by rw [forall_prop_of_true ha]; rfl), hle⟩
        rw [hs h, List.flatMap_cons, List.append_assoc]
      · rw [← permitBrowser_of_readable hb] at hr hc he
        rw [andThen_of_failure hr]
        exact ⟨hc, fun h => (by cases h), iff_of_true he fun hx => absurd hx ha, he.ge⟩
    · have hp := permitBrowser_of_not_readable calls port p hb
      rw [andThen_of_failure (by rw [hp]), hp]
      refine ⟨rfl, fun h => (by cases h), iff_of_false (Nat.succ_ne_self _) fun hr => hb hr.1, Nat.le_succ _⟩

lemma addSubLayer_of_success (h : p.engine.pending = some e)
    (hl : LOCALPROXY_FW_GUID ∈ e.subLayers ∨ calls.subLayerAdd = true) :
    ∃ p', addSubLayer calls p = (true, p') ∧ p'.engine.committed = p.engine.committed ∧ p'.adds = p.adds ∧
      p'.emptyReads = p.emptyReads ∧ p'.engine.pending = some
        { e with
          subLayers :=
            if LOCALPROXY_FW_GUID ∈ e.subLayers then e.subLayers else e.subLayers ++ [LOCALPROXY_FW_GUID] } := by
  rw [addSubLayer, h, Option.getD_some]
  by_cases hm : LOCALPROXY_FW_GUID ∈ e.subLayers
  · rw [if_pos hm, if_pos hm]
    exact ⟨p, rfl, rfl, rfl, rfl, h⟩
  · rw [if_neg hm, if_neg hm, if_pos (hl.resolve_left hm)]
    exact ⟨_, rfl, Store.committed_modify h, rfl, rfl, Store.pending_modify h⟩

lemma addSubLayer_of_failure (h : p.engine.pending = some e)
    (hl : ¬(LOCALPROXY_FW_GUID ∈ e.subLayers ∨ calls.subLayerAdd = true)) : addSubLayer calls p = (false, p) := by
  rw [not_or] at hl
  rw [addSubLayer, h, Option.getD_some, if_neg hl.1, if_neg hl.2]

variable (calls port) in
lemma restrictPort_spec (h : p.engine.pending = some e) (browsers : List Browser) :
    (restrictPort calls port browsers p).2.engine.committed = p.engine.committed ∧
      ((restrictPort calls port browsers p).1 = true →
        (restrictPort calls port browsers p).2.engine.pending = some (restricted calls port browsers e)) ∧
      ((restrictPort calls port browsers p).2.emptyReads = p.emptyReads ↔
        (LOCALPROXY_FW_GUID ∈ e.subLayers ∨ calls.subLayerAdd = true → calls.filterAdd p.adds = true →
          calls.filterAdd (p.adds + 1) = true → Readable calls port (p.adds + 2) browsers)) := by
  rw [restrictPort]
  by_cases hl : LOCALPROXY_FW_GUID ∈ e.subLayers ∨ calls.subLayerAdd = true
  case neg =>
    rw [andThen_of_failure (by rw [addSubLayer_of_failure h hl]), addSubLayer_of_failure h hl]
    exact ⟨rfl, fun h => (by cases h), iff_of_true rfl fun hx => absurd hx hl⟩
  case pos =>
    obtain ⟨p', hs, hc, ha, he, hp⟩ := addSubLayer_of_success h hl
    rw [andThen_of_success (by rw [hs]), hs, ← hc, ← ha, ← he, forall_prop_of_true hl]
    have hall : (∀ i < (blockFilters port).length, calls.filterAdd (p'.adds + i) = true) ↔
        calls.filterAdd p'.adds = true ∧ calls.filterAdd (p'.adds + 1) = true :=
      ⟨fun h => ⟨h 0 Nat.zero_lt_two, h 1 Nat.one_lt_two⟩, fun h i hi => by
        obtain rfl | rfl : i = 0 ∨ i = 1 := by simp only [blockFilters, List.length_cons, List.length_nil] at hi; omega
        · exact h.1
        · exact h.2⟩
    rw [← and_imp, ← hall]
    obtain ⟨hadds, hr⟩ | ⟨hadds, hr, hc, he⟩ := forEach_filterAdd calls hp (blockFilters port)
    · obtain ⟨hc, hb, he, -⟩ := forEach_permitBrowser calls port (p := p'.added (blockFilters port) _)
        rfl browsers
      rw [andThen_of_success (by rw [hr]), hr]
      refine ⟨hc, fun h => ?_, he.trans (by rw [forall_prop_of_true hadds]; rfl)⟩
      rw [hb h, restricted, List.append_assoc]
    · rw [andThen_of_failure hr]
      exact ⟨hc, fun h => (by cases h), iff_of_true he fun hx => absurd hx hadds⟩

lemma committed_transaction (body : Attempt WinFwPolicy) (p : WinFwPolicy)
    (hc : (body { p with engine := p.engine.start }).2.engine.committed = p.engine.committed) :
    (p.transaction calls body).engine.committed =
      if (body { p with engine := p.engine.start }).1 = true ∧ calls.commit = true then
        (body { p with engine := p.engine.start }).2.engine.pending.getD p.engine.committed
      else p.engine.committed := by
  rw [transaction]
  simp only [Bool.and_eq_true]
  split
  case isTrue => rw [← hc]; rfl
  case isFalse => exact hc

lemma restrictProxyPort_atomic (browsers : List Browser) :
    (p.restrictProxyPort calls port browsers).engine.committed = p.engine.committed ∨
      (p.restrictProxyPort calls port browsers).engine.committed =
        restricted calls port browsers p.engine.committed := by
  obtain ⟨hc, hs, -⟩ := restrictPort_spec calls port (p := { p with engine := p.engine.start })
    rfl browsers
  rw [restrictProxyPort, committed_transaction _ _ hc]
  split
  case isTrue h => right; rw [hs h.1, Option.getD_some]
  case isFalse => exact .inl rfl

lemma restrictProxyPort_strip_iff (browsers : List Browser) :
    (p.restrictProxyPort calls port browsers).emptyReads = p.emptyReads ↔
      (LOCALPROXY_FW_GUID ∈ p.engine.committed.subLayers ∨ calls.subLayerAdd = true → calls.filterAdd p.adds = true →
        calls.filterAdd (p.adds + 1) = true → Readable calls port (p.adds + 2) browsers) := by
  have hs := (restrictPort_spec calls port (p := { p with engine := p.engine.start }) rfl
    browsers).2.2
  rw [← hs, restrictProxyPort, transaction]
  split <;> rfl

/-- The filters that the calls add whose results are overlooked. -/
def overlooked (calls : PolicyCalls) (n : ℕ) (filter : PolicyFilter) : List PolicyFilter :=
  if calls.filterAdd n then [filter] else []

variable (calls) in
lemma ignoring_filterAdd (h : p.engine.pending = some e) (filter : PolicyFilter) :
    (filterAdd calls filter).ignoring p = (true, { p.added (overlooked calls p.adds filter) e with adds := p.adds + 1 }) := by
  rw [ignoring, filterAdd_eq h, overlooked]
  split
  case isTrue => rfl
  case isFalse =>
    rw [added, List.append_nil, ← h]

/-- The filters that the transaction for the proxy leaves, if the first two calls succeed. -/
def proxyAdded (calls : PolicyCalls) (n : ℕ) (appId : List UInt8) : List PolicyFilter :=
  (proxyFilters appId).take 2 ++
    overlooked calls (n + 2) (proxyFilter appId "Permit outbound IPv6 traffic from proxy" .ALE_AUTH_CONNECT_V6) ++
    overlooked calls (n + 3) (proxyFilter appId "Permit inbound IPv6 traffic to proxy" .ALE_AUTH_RECV_ACCEPT_V6)

lemma permitProxy_of_success (h : p.engine.pending = some e) (appId : List UInt8)
    (h₀ : calls.filterAdd p.adds = true) (h₁ : calls.filterAdd (p.adds + 1) = true) :
    permitProxy calls appId p =
      (true, { p.added (proxyAdded calls p.adds appId) e with adds := p.adds + 4 }) := by
  have hsecond (f g : PolicyFilter) := filterAdd_of_success calls (p := p.added [f] e) rfl h₁ g
  have hthird (f g : PolicyFilter) (e' : Engine) := ignoring_filterAdd calls
    (p := (p.added [f] e).added [g] e') rfl
  rw [permitProxy, andThen_of_success (by rw [filterAdd_of_success calls h h₀]), filterAdd_of_success calls h h₀]
  dsimp only
  rw [andThen_of_success (by rw [hsecond]), hsecond]
  dsimp only
  rw [andThen_of_success rfl, hthird]
  dsimp only
  rw [ignoring_filterAdd calls rfl]
  simp [added, proxyAdded, proxyFilters, List.append_assoc]

lemma permitProxy_of_failure (h : p.engine.pending = some e) (appId : List UInt8)
    (hn : ¬(calls.filterAdd p.adds = true ∧ calls.filterAdd (p.adds + 1) = true)) :
    (permitProxy calls appId p).1 = false ∧ (permitProxy calls appId p).2.engine.committed = p.engine.committed := by
  rw [permitProxy]
  by_cases h₀ : calls.filterAdd p.adds = true
  case pos =>
    have h₁ : ¬calls.filterAdd (p.adds + 1) = true := fun h₁ => hn ⟨h₀, h₁⟩
    have hsecond (f g : PolicyFilter) := filterAdd_of_failure calls (p := p.added [f] e) rfl h₁ g
    rw [andThen_of_success (by rw [filterAdd_of_success calls h h₀]), filterAdd_of_success calls h h₀]
    dsimp only
    rw [andThen_of_failure (by rw [hsecond]), hsecond]
    exact ⟨rfl, rfl⟩
  case neg =>
    rw [andThen_of_failure (by rw [filterAdd_of_failure calls h h₀]), filterAdd_of_failure calls h h₀]
    exact ⟨rfl, rfl⟩

lemma committed_permitProxy (appId : List UInt8) :
    (p.transaction calls (permitProxy calls appId)).engine.committed =
      if (calls.filterAdd p.adds = true ∧ calls.filterAdd (p.adds + 1) = true) ∧ calls.commit = true then
        { p.engine.committed with filters := p.engine.committed.filters ++ proxyAdded calls p.adds appId }
      else p.engine.committed := by
  by_cases hs : calls.filterAdd p.adds = true ∧ calls.filterAdd (p.adds + 1) = true
  · have hp := permitProxy_of_success (p := { p with engine := p.engine.start }) rfl appId hs.1 hs.2
    rw [committed_transaction _ _ (by rw [hp]; rfl), hp]
    simp only [hs, and_self, true_and]
    rfl
  · have hp := permitProxy_of_failure (p := { p with engine := p.engine.start }) rfl appId hs
    rw [committed_transaction _ _ hp.2, hp.1, if_neg (by simp), if_neg fun h => hs h.1]

lemma proxyAdded_eq_nil_or_iff (n : ℕ) (appId : List UInt8) (filters : List PolicyFilter) :
    (filters ++ proxyAdded calls n appId = filters ∨ filters ++ proxyAdded calls n appId = filters ++ proxyFilters appId) ↔
      calls.filterAdd (n + 2) = true ∧ calls.filterAdd (n + 3) = true := by
  rw [List.append_right_eq_self, List.append_cancel_left_eq, proxyAdded, overlooked, overlooked]
  cases calls.filterAdd (n + 2) <;> cases calls.filterAdd (n + 3) <;> simp [proxyFilters, proxyFilter]

lemma fwpmSublayerChanged_atomic_iff (changeType : UInt32) (subLayerKey : Guid) :
    ((p.fwpmSublayerChanged calls changeType subLayerKey).engine.committed = p.engine.committed ∨
      ∃ appId ∈ calls.appId calls.moduleFileName,
        (p.fwpmSublayerChanged calls changeType subLayerKey).engine.committed =
          { p.engine.committed with filters := p.engine.committed.filters ++ proxyFilters appId }) ↔
      (changeType = FWPM_CHANGE_ADD → subLayerKey = KILLSWITCH_FW_GUID → calls.appId calls.moduleFileName ≠ none →
        calls.filterAdd p.adds = true → calls.filterAdd (p.adds + 1) = true → calls.commit = true →
        calls.filterAdd (p.adds + 2) = true ∧ calls.filterAdd (p.adds + 3) = true) := by
  rw [fwpmSublayerChanged]
  by_cases hc : changeType = FWPM_CHANGE_ADD
  case neg => rw [if_pos hc]; exact iff_of_true (.inl rfl) fun h => absurd h hc
  by_cases hk : subLayerKey = KILLSWITCH_FW_GUID
  case neg => rw [if_neg (not_not.mpr hc), if_pos hk]; exact iff_of_true (.inl rfl) fun _ h => absurd h hk
  rw [if_neg (not_not.mpr hc), if_neg (not_not.mpr hk), forall_prop_of_true hc, forall_prop_of_true hk]
  cases ha : calls.appId calls.moduleFileName with
  | none => exact iff_of_true (.inl rfl) fun h => absurd rfl h
  | some appId =>
    dsimp only
    rw [committed_permitProxy]
    by_cases hs : (calls.filterAdd p.adds = true ∧ calls.filterAdd (p.adds + 1) = true) ∧ calls.commit = true
    · rw [if_pos hs, forall_prop_of_true (Option.some_ne_none appId), forall_prop_of_true hs.1.1,
        forall_prop_of_true hs.1.2, forall_prop_of_true hs.2, ← proxyAdded_eq_nil_or_iff p.adds appId
          p.engine.committed.filters]
      simp [Engine.ext_iff]
    · rw [if_neg hs]
      exact iff_of_true (.inl rfl) fun _ h₀ h₁ hcommit => absurd ⟨⟨h₀, h₁⟩, hcommit⟩ hs

theorem atomic_iff_fits (calls : PolicyCalls) (port : UInt16) (browsers : List Browser) (changeType : UInt32)
    (subLayerKey : Guid) (p : WinFwPolicy) :
    p.Atomic calls port browsers changeType subLayerKey ↔ p.Fits calls port browsers changeType subLayerKey := by
  constructor
  · intro h
    exact ⟨(fwpmSublayerChanged_atomic_iff _ _).mp h.proxy, (restrictProxyPort_strip_iff _).mp h.strip⟩
  · intro h
    exact ⟨(fwpmSublayerChanged_atomic_iff _ _).mpr h.proxy, restrictProxyPort_atomic _,
      (restrictProxyPort_strip_iff _).mpr h.browsers⟩

/-- Calls of which the third one that adds a filter fails. -/
def thirdFails : PolicyCalls where
  moduleFileName := "proxy"
  appId _ := some []
  subLayerAdd := true
  filterAdd n := n ≠ 2
  commit := true

theorem not_atomic :
    ¬({ engine := { committed := {} } } : WinFwPolicy).Atomic thirdFails 0 [] FWPM_CHANGE_ADD KILLSWITCH_FW_GUID ∧
      ¬({ engine := { committed := {} } } : WinFwPolicy).Atomic { thirdFails with filterAdd := fun _ => true } 0
        [⟨"browser", some ""⟩] FWPM_CHANGE_ADD KILLSWITCH_FW_GUID := by
  constructor
  · intro h
    exact absurd ((fwpmSublayerChanged_atomic_iff _ _).mp h.proxy rfl rfl) (by decide)
  · intro h
    obtain ⟨hb, -⟩ := (restrictProxyPort_strip_iff _).mp h.strip (.inr rfl) rfl rfl
    obtain ⟨c, hm, -⟩ := hb [] rfl
    cases hm

end VpnClient.Windows.WinFwPolicy
