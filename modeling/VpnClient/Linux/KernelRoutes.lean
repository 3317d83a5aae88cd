import VpnClient.Backend.Daemon
import VpnClient.Library.Runs
import VpnClient.Linux.Rtnetlink

/-! The routes of the kernel under the messages of the daemon: those through the interface are the ones that the
daemon believes in, and no exclusion outlives the interface once the daemon is told that it is gone. -/

namespace VpnClient.Linux.RouteMessages

open Address Backend Library.Attempts Library.Attempts.Attempt Library.LittleEndian Library.PaddedRecords Library.Runs

/-- The object that sends the messages, the kernel, and the interface that the daemon believes in. -/
structure System (κ : Type) where
  utils : WireguardUtilsLinux
  kernel : κ
  interface : Interface := {}

namespace System

variable {κ ω : Type} (K : Kernel κ ω)

def send (message : WireguardUtilsLinux → NlMsg × WireguardUtilsLinux) : Attempt (System κ) := fun s =>
  let m := message s.utils
  let r := K.sendto m.1.toBytes s.kernel
  (r.1, { s with utils := m.2, kernel := r.2 })

/-- The rules of both families. -/
def sendRules (action flags : ℕ) : Attempt (System κ) :=
  (send K (WireguardUtilsLinux.rtmSendRule action flags AF_INET)).andThen
    (send K (WireguardUtilsLinux.rtmSendRule action flags AF_INET6))

/-- The device and the firewall are set up as given. -/
def addInterface (setDevice firewall : Bool) : Attempt (System κ) :=
  Attempt.andThen (fun s => ((K.wgAddDevice s.kernel).1, { s with kernel := (K.wgAddDevice s.kernel).2 })) <|
  Attempt.andThen (fun s => (setDevice, s)) <|
  (sendRules K RTM_NEWRULE (NLM_F_REQUEST ||| NLM_F_CREATE ||| NLM_F_REPLACE ||| NLM_F_ACK)).andThen <|
  Attempt.andThen (fun s => (firewall, s)) <|
  fun s => (K.ifNametoindex s.kernel ≠ 0, { s with utils := { s.utils with ifindex := K.ifNametoindex s.kernel } })

def deleteInterface (firewall : Bool) : Attempt (System κ) :=
  Attempt.andThen (fun s => (firewall, s)) <|
  (sendRules K RTM_DELRULE (NLM_F_REQUEST ||| NLM_F_ACK)).andThen fun s =>
    ((K.wgDelDevice s.kernel).1, { s with kernel := (K.wgDelDevice s.kernel).2 })

def updateRoutePrefix (p : Prefix) : Attempt (System κ) := send K (newRoute RTN_UNICAST p.1)

def deleteRoutePrefix (p : Prefix) : Attempt (System κ) := send K (delRoute RTN_UNICAST p.1)

/-- A round of the loop of `excludeLocalNetworks`. -/
def excludeNetwork (p : Prefix) : Attempt (System κ) := fun s =>
  send K (newRoute RTN_THROW p.1)
    { s with utils := { s.utils with routesExcluded := s.utils.routesExcluded ++ [p.1] } }

def excludeLocalNetworks (lanAddressRanges : List Prefix) : Attempt (System κ) :=
  forEach (fun p => (excludeNetwork K p).ignoring) lanAddressRanges

def nlsockHandleNewlink (msg : Bytes) (s : System κ) : System κ :=
  if ifiIndex msg ≠ s.utils.ifindex then s
  else { s with utils := { s.utils with ifflags := BitVec.ofNat 32 (value ((msg.drop 8).take 4)) } }

/-- The loop of `nlsockHandleDellink` over the exclusions. -/
def clearExclusions : List IPAddress → System κ → System κ
  | [], s => s
  | p :: ps, s => clearExclusions ps (send K (delRoute RTN_THROW p) s).2

def nlsockHandleDellink (msg : Bytes) (s : System κ) : System κ :=
  if ifiIndex msg ≠ s.utils.ifindex then s
  else
    let s := clearExclusions K s.utils.routesExcluded s
    { s with utils := { s.utils with routesExcluded := [], ifindex := 0, ifflags := 0 } }

/-- The loop of `nlsockReady`, whose other messages are ignored or logged. -/
def handleMessages : List Bytes → System κ → System κ
  | [], s => s
  | nlmsg :: messages, s =>
    if nlmsgType nlmsg = NLMSG_DONE then s
    else if nlmsgType nlmsg = RTM_NEWLINK then
      handleMessages messages (s.nlsockHandleNewlink (nlmsg.drop nlmsgs.header))
    else if nlmsgType nlmsg = RTM_DELLINK then
      handleMessages messages (s.nlsockHandleDellink K (nlmsg.drop nlmsgs.header))
    else handleMessages messages s

def nlsockReady (s : System κ) : System κ :=
  let r := K.recv s.kernel
  match r.1 with
  | none => { s with kernel := r.2 }
  | some data => handleMessages K (nlmsgs.walk data) { s with kernel := r.2 }

/-- A call of the daemon, which believes in what succeeds. -/
def perform (op : Op) (a : Attempt (System κ)) (s : System κ) : System κ :=
  let r := a s
  { r.2 with interface := if r.1 then r.2.interface.apply op else r.2.interface }

inductive Event (ω : Type) where
  | addInterface (config : InterfaceConfig) (setDevice firewall : Bool)
  | deleteInterface (firewall : Bool)
  | updateRoutePrefix (p : Prefix)
  | deleteRoutePrefix (p : Prefix)
  | excludeLocalNetworks (lanAddressRanges : List Prefix)
  | nlsockReady
  | others (o : ω)

def step (s : System κ) : Event ω → System κ
  | .addInterface config setDevice firewall =>
    s.perform (.addInterface config) (addInterface K setDevice firewall)
  | .deleteInterface firewall => s.perform .deleteInterface (deleteInterface K firewall)
  | .updateRoutePrefix p => s.perform (.updateRoutePrefix p.1) (updateRoutePrefix K p)
  | .deleteRoutePrefix p => s.perform (.deleteRoutePrefix p.1) (deleteRoutePrefix K p)
  | .excludeLocalNetworks lanAddressRanges => s.perform .excludeLocalNetworks (excludeLocalNetworks K lanAddressRanges)
  | .nlsockReady => s.nlsockReady K
  | .others o => { s with kernel := K.others o s.kernel }

/-- The routes through the interface are those that the daemon believes in. -/
def Agrees (s : System κ) : Prop := ∀ p : Prefix, p.1 ∈ s.interface.routes ↔ K.Unicast s.kernel p

/-- A route goes through the interface that the object knows, which is the kernel's, or keeps an exclusion out of it. -/
structure Inv (s : System κ) : Prop where
  ifindex : s.utils.ifindex < 2 ^ 32
  routesExcluded : ∀ p ∈ s.utils.routesExcluded, p.Canonical
  routes : ∀ key route, K.routes s.kernel key = some route →
    (route.type = RTN_UNICAST ∧ route.oif = some s.utils.ifindex ∧ K.device s.kernel = some s.utils.ifindex) ∨
      route.type = RTN_THROW ∧ route.oif = none

/-- The exclusions whose messages are sent. -/
def taken : List Prefix → System κ → List Prefix
  | [], _ => []
  | p :: ps, s =>
    let r := excludeNetwork K p s
    if r.1 then p :: taken ps r.2 else taken ps r.2

/-- A route is set for the interface that there is and that is up, unless the route is there, and no exclusion takes
the place of a route. -/
def Undisturbed (s : System κ) : Event ω → Prop
  | .updateRoutePrefix p => (updateRoutePrefix K p s).1 = true →
    (K.device s.kernel = some s.utils.ifindex ∧ K.takes s.kernel s.utils.ifindex (family p.1.address) = true) ∨
      p.1 ∈ s.interface.routes
  | .excludeLocalNetworks lanAddressRanges => ∀ p ∈ taken K lanAddressRanges s, p.1 ∉ s.interface.routes
  | _ => True

variable {K} {s t : System κ} {kernel : κ} {p q : Prefix} {action type flags index : ℕ}

lemma routeKey_injective : Function.Injective fun p : Prefix => routeKey p.1 := by
  rintro ⟨p, hp⟩ ⟨q, hq⟩ h
  simp only [routeKey, RouteKey.mk.injEq] at h
  obtain ⟨hf, hl, hb⟩ := h
  have hpr : p.address.protocol = q.address.protocol := by
    rw [family, family] at hf
    cases hx : p.address.protocol <;> cases hy : q.address.protocol <;> simp_all [AF_INET, AF_INET6]
  apply Subtype.ext
  refine IPAddress.ext (QHostAddress.bits_ext hpr fun i hi => ?_) hl
  have hj : i < q.address.width := QHostAddress.width_eq hpr ▸ hi
  rw [← QHostAddress.bits_toBytes _ hi, ← QHostAddress.bits_toBytes _ hj, hb]

section Frames

lemma Inv.congr (h : Inv K s) (hu : t.utils.ifindex = s.utils.ifindex)
    (he : t.utils.routesExcluded = s.utils.routesExcluded) (hd : K.device t.kernel = K.device s.kernel)
    (hr : ∀ key route, K.routes t.kernel key = some route → K.routes s.kernel key = some route) : Inv K t where
  ifindex := hu ▸ h.ifindex
  routesExcluded := he ▸ h.routesExcluded
  routes key route hk := by
    rw [hu, hd]
    exact h.routes key route (hr key route hk)

lemma unicast_congr {k k' : κ} (hd : K.device k' = K.device k) (hr : K.routes k' = K.routes k) :
    K.Unicast k' q ↔ K.Unicast k q := by
  rw [Kernel.Unicast, Kernel.Unicast, hd, hr]

lemma unicast_update {k k' : κ} {route : Option Route} (hd : K.device k' = K.device k)
    (hr : K.routes k' = Function.update (K.routes k) (routeKey p.1) route) :
    K.Unicast k' q ↔ q = p ∧ (∃ r, route = some r ∧ r.type = RTN_UNICAST ∧ r.oif.isSome = true ∧ r.oif = K.device k) ∨
      q ≠ p ∧ K.Unicast k q := by
  rw [Kernel.Unicast, hd, hr]
  by_cases hq : q = p
  · subst hq
    simp
  · rw [Function.update_of_ne (routeKey_injective.ne hq)]
    simp [Kernel.Unicast, hq]

/-- All routes that are left keep exclusions out of the interface. -/
def AllThrow (K : Kernel κ ω) (s : System κ) : Prop :=
  ∀ key route, K.routes s.kernel key = some route → route.type = RTN_THROW ∧ route.oif = none

lemma Inv.allThrow (h : Inv K s) (hd : K.device s.kernel ≠ some s.utils.ifindex) : AllThrow K s :=
  fun key route hk => (h.routes key route hk).resolve_left fun hh => hd hh.2.2

lemma AllThrow.not_unicast (h : AllThrow K s) : ¬ K.Unicast s.kernel q := by
  rintro ⟨route, hr, ht, -⟩
  exact absurd (ht.symm.trans (h _ route hr).1) (by decide)

lemma AllThrow.inv (h : AllThrow K s) (hi : s.utils.ifindex < 2 ^ 32)
    (he : ∀ p ∈ s.utils.routesExcluded, p.Canonical) : Inv K s :=
  ⟨hi, he, fun key route hk => .inr (h key route hk)⟩

/-- Nothing that the daemon believes in has changed, nor a route through the interface. -/
structure Same (K : Kernel κ ω) (s t : System κ) : Prop where
  inv : Inv K t
  interface : t.interface = s.interface
  unicast : ∀ q, K.Unicast t.kernel q ↔ K.Unicast s.kernel q

/-- No route has changed, nor a recorded exclusion. -/
structure Frame (K : Kernel κ ω) (s t : System κ) : Prop extends Same K s t where
  routes : K.routes t.kernel = K.routes s.kernel
  routesExcluded : t.utils.routesExcluded = s.utils.routesExcluded

lemma Inv.frame (h : Inv K s) (hu : t.utils.ifindex = s.utils.ifindex)
    (he : t.utils.routesExcluded = s.utils.routesExcluded) (hi : t.interface = s.interface)
    (hk : K.device t.kernel = K.device s.kernel ∧ K.routes t.kernel = K.routes s.kernel) : Frame K s t :=
  ⟨⟨h.congr hu he hk.1 fun key _ hr => by rwa [hk.2] at hr, hi, fun _ => unicast_congr hk.1 hk.2⟩, hk.2, he⟩

lemma Frame.refl (h : Inv K s) : Frame K s s := h.frame rfl rfl rfl ⟨rfl, rfl⟩

lemma Frame.trans {u : System κ} (h : Frame K s t) (h' : Frame K t u) : Frame K s u :=
  ⟨⟨h'.inv, h'.interface.trans h.interface, fun q => (h'.unicast q).trans (h.unicast q)⟩, h'.routes.trans h.routes,
    h'.routesExcluded.trans h.routesExcluded⟩

lemma Same.refl (h : Inv K s) : Same K s s := (Frame.refl h).toSame

lemma Same.agrees (h : Same K s t) : Agrees K t ↔ Agrees K s := by
  simp only [Agrees, h.interface, h.unicast]

lemma Frame.allThrow (h : Frame K s t) (ha : AllThrow K s) : AllThrow K t := by
  rw [AllThrow, h.routes]
  exact ha

end Frames

section Sending

variable (action flags) in
lemma asks_rtmSendRoute (hi : s.utils.ifindex < 2 ^ 32) (p : Prefix) (ha : action < 2 ^ 16) (hf : flags < 2 ^ 16)
    (ht : type = RTN_UNICAST ∨ type = RTN_THROW) :
    Asks (s.utils.rtmSendRoute action p.1 type flags).1.toBytes action flags
      (WireguardUtilsLinux.routeOf p.1 type s.utils.ifindex) := by
  have hl : type < 256 := by
    rcases ht with rfl | rfl <;> decide
  exact WireguardUtilsLinux.read_rtmSendRoute ⟨hi, ha, hf⟩ p.2.length_le hl

variable (hK : K.Documented)
include hK

variable (type) in
lemma routes_newRoute (hi : s.utils.ifindex < 2 ^ 32) (p : Prefix)
    (ht : type = RTN_UNICAST ∨ type = RTN_THROW) :
    K.routes (send K (newRoute type p.1) s).2.kernel =
      if (send K (newRoute type p.1) s).1 = true ∧
          (type = RTN_THROW ∨ K.takes s.kernel s.utils.ifindex (family p.1.address) = true) then
        Function.update (K.routes s.kernel) (routeKey p.1)
          (some (WireguardUtilsLinux.routeOf p.1 type s.utils.ifindex))
      else K.routes s.kernel := by
  have ha := asks_rtmSendRoute RTM_NEWROUTE (NLM_F_CREATE ||| NLM_F_REPLACE) hi p (by decide) (by decide) ht
  by_cases hs : (send K (newRoute type p.1) s).1 = true
  · have hn := hK.newRoute _ s.kernel p type s.utils.ifindex ht ha hs
    exact hn.trans (by simp only [hs, true_and])
  · rw [if_neg fun h => hs h.1]
    exact hK.not_sendto _ s.kernel (Bool.eq_false_of_not_eq_true hs)

variable (type) in
/-- What is deleted is one route, and it goes if it is of the type and the interface in question. -/
lemma routes_delRoute (hi : s.utils.ifindex < 2 ^ 32) (p : Prefix)
    (ht : type = RTN_UNICAST ∨ type = RTN_THROW) :
    ∃ left, K.routes (send K (delRoute type p.1) s).2.kernel =
        Function.update (K.routes s.kernel) (routeKey p.1) left ∧
      (left = none ∨ left = K.routes s.kernel (routeKey p.1)) ∧
      ((send K (delRoute type p.1) s).1 = true → ∀ route, K.routes s.kernel (routeKey p.1) = some route →
        route.type = type → route.oif = (WireguardUtilsLinux.routeOf p.1 type s.utils.ifindex).oif → left = none) ∧
      ((send K (delRoute type p.1) s).1 = false → left = K.routes s.kernel (routeKey p.1)) := by
  have ha := asks_rtmSendRoute RTM_DELROUTE 0 hi p (by decide) (by decide) ht
  by_cases hs : (send K (delRoute type p.1) s).1 = true
  · obtain ⟨left, hr, hl, hd⟩ := hK.delRoute _ s.kernel p type s.utils.ifindex ht ha hs
    exact ⟨left, hr, hl, fun _ => hd, fun hf => absurd (hs.symm.trans hf) (by decide)⟩
  · have hn := hK.not_sendto _ s.kernel (Bool.eq_false_of_not_eq_true hs)
    exact ⟨K.routes s.kernel (routeKey p.1), hn.trans (Function.update_eq_self _ _).symm, .inr rfl,
      fun h => absurd h hs, fun _ => rfl⟩

lemma Inv.newRoute (h : Inv K s) (p : Prefix) (ht : type = RTN_UNICAST ∨ type = RTN_THROW)
    (hd : (send K (newRoute type p.1) s).1 = true → type = RTN_UNICAST →
      K.takes s.kernel s.utils.ifindex (family p.1.address) = true → K.device s.kernel = some s.utils.ifindex) :
    Inv K (send K (RouteMessages.newRoute type p.1) s).2 where
  ifindex := h.ifindex
  routesExcluded := h.routesExcluded
  routes key route hk := by
    have hdev : K.device (send K (RouteMessages.newRoute type p.1) s).2.kernel = K.device s.kernel :=
      hK.device_sendto _ _
    rw [hdev]
    rw [routes_newRoute type hK h.ifindex p ht] at hk
    split_ifs at hk with hs
    · rw [Function.update_apply] at hk
      split_ifs at hk with hkey
      · obtain rfl := Option.some.inj hk
        rcases ht with rfl | rfl
        · exact .inl ⟨rfl, rfl, hd hs.1 rfl (hs.2.resolve_left (by decide))⟩
        · exact .inr ⟨rfl, rfl⟩
      · exact h.routes key route hk
    · exact h.routes key route hk

lemma subset_delRoute (hi : s.utils.ifindex < 2 ^ 32) (p : Prefix)
    (ht : type = RTN_UNICAST ∨ type = RTN_THROW) {key : RouteKey} {route : Route}
    (hk : K.routes (send K (delRoute type p.1) s).2.kernel key = some route) :
    K.routes s.kernel key = some route := by
  obtain ⟨left, hr, hl, -⟩ := routes_delRoute type hK hi p ht
  rw [hr, Function.update_apply] at hk
  split_ifs at hk with hkey
  · rcases hl with rfl | rfl
    · cases hk
    · rw [hkey, hk]
  · exact hk

lemma Inv.delRoute (h : Inv K s) (p : Prefix) (ht : type = RTN_UNICAST ∨ type = RTN_THROW) :
    Inv K (send K (delRoute type p.1) s).2 :=
  h.congr rfl rfl (hK.device_sendto _ _) fun _ _ hk => subset_delRoute hK h.ifindex p ht hk

/-- The rules change no route. -/
lemma frame_rule {addrfamily : ℕ} (h : Inv K s) (ha : action = RTM_NEWRULE ∨ action = RTM_DELRULE)
    (hf : flags < 2 ^ 16) (hx : addrfamily < 256) :
    Frame K s (send K (WireguardUtilsLinux.rtmSendRule action flags addrfamily) s).2 := by
  have hl : action < 2 ^ 16 := by
    rcases ha with rfl | rfl <;> decide
  obtain ⟨request, hr, rfl, -⟩ := WireguardUtilsLinux.read_rtmSendRule (s := s.utils) ⟨h.ifindex, hl, hf⟩ hx
  exact h.frame rfl rfl rfl ⟨hK.device_sendto _ _, hK.rule _ _ request hr ha⟩

lemma frame_sendRules (h : Inv K s) (ha : action = RTM_NEWRULE ∨ action = RTM_DELRULE)
    (hf : flags < 2 ^ 16) :
    Frame K s (sendRules K action flags s).2 ∧ (sendRules K action flags s).2.utils.ifindex = s.utils.ifindex := by
  have hs : Frame K s (send K (WireguardUtilsLinux.rtmSendRule action flags AF_INET) s).2 :=
    frame_rule hK h ha hf (by decide)
  rw [sendRules, Attempt.andThen]
  split_ifs
  · exact ⟨hs.trans (frame_rule hK hs.inv ha hf (by decide)), rfl⟩
  · exact ⟨hs, rfl⟩

lemma frame_addInterface {setDevice firewall : Bool} (h : Inv K s) :
    Frame K s (addInterface K setDevice firewall s).2 := by
  have hr := hK.routes_wgAddDevice s.kernel
  rw [addInterface, Attempt.andThen]
  dsimp only
  by_cases hok : (K.wgAddDevice s.kernel).1 = true
  · rw [if_pos hok]
    -- there was no interface, so that every route there is keeps an exclusion out of it
    have ha : AllThrow K s := h.allThrow (by rw [hK.wgAddDevice s.kernel hok]; exact (Option.some_ne_none _).symm)
    have ha' : AllThrow K { s with kernel := (K.wgAddDevice s.kernel).2 } := by
      rw [AllThrow, hr]
      exact ha
    have hs : Frame K s { s with kernel := (K.wgAddDevice s.kernel).2 } :=
      ⟨⟨ha'.inv h.ifindex h.routesExcluded, rfl, fun _ => iff_of_false ha'.not_unicast ha.not_unicast⟩, hr, rfl⟩
    refine Keeps.andThen (P := Frame K s) (fun t ht => ht)
      (Keeps.andThen (fun t ht => ht.trans (frame_sendRules hK ht.inv (.inl rfl) (by decide)).1)
        (Keeps.andThen (fun t ht => ht) fun t ht => ?_)) _ hs
    have hn : AllThrow K { t with utils := { t.utils with ifindex := K.ifNametoindex t.kernel } } := ht.allThrow ha
    exact ⟨⟨hn.inv (hK.ifNametoindex_lt t.kernel) ht.inv.routesExcluded, ht.interface, ht.unicast⟩, ht.routes,
      ht.routesExcluded⟩
  · rw [if_neg hok]
    exact h.frame rfl rfl rfl ⟨hK.not_wgAddDevice s.kernel (Bool.eq_false_of_not_eq_true hok), hr⟩

/-- The interface goes with its routes, or nothing has changed. -/
lemma deleteInterface_cases (h : Inv K s) (firewall : Bool) :
    ((deleteInterface K firewall s).1 = false ∧ Frame K s (deleteInterface K firewall s).2) ∨
      ((deleteInterface K firewall s).1 = true ∧ (deleteInterface K firewall s).2.interface = s.interface ∧
        (deleteInterface K firewall s).2.utils.routesExcluded = s.utils.routesExcluded ∧
        (deleteInterface K firewall s).2.utils.ifindex = s.utils.ifindex ∧
        AllThrow K (deleteInterface K firewall s).2 ∧
        ∀ key route, K.routes (deleteInterface K firewall s).2.kernel key = some route →
          K.routes s.kernel key = some route) := by
  obtain ⟨hr, hi⟩ := frame_sendRules hK h (.inr rfl) (show NLM_F_REQUEST ||| NLM_F_ACK < 2 ^ 16 by decide)
  rw [deleteInterface, Attempt.andThen, Attempt.andThen]
  dsimp only
  split_ifs
  · generalize (sendRules K RTM_DELRULE (NLM_F_REQUEST ||| NLM_F_ACK) s).2 = t at hr hi
    by_cases hok : (K.wgDelDevice t.kernel).1 = true
    · obtain ⟨index, hd, -, hkept⟩ := hK.wgDelDevice t.kernel hok
      have hsub : ∀ key route, K.routes (K.wgDelDevice t.kernel).2 key = some route →
          K.routes t.kernel key = some route ∧ route.oif ≠ some index := fun key route hk => by
        simpa [hkept, Option.filter_eq_some_iff] using hk
      refine .inr ⟨hok, hr.interface, hr.routesExcluded, hi, fun key route hk => ?_, fun key route hk => ?_⟩
      · obtain ⟨hk, ho⟩ := hsub key route hk
        exact (hr.inv.routes key route hk).resolve_left fun hh => ho (hh.2.1.trans (hh.2.2.symm.trans hd))
      · rw [← hr.routes]
        exact (hsub key route hk).1
    · have hf := Bool.eq_false_of_not_eq_true hok
      exact .inl ⟨hf, hr.trans (hr.inv.frame rfl rfl rfl (hK.not_wgDelDevice t.kernel hf))⟩
  · exact .inl ⟨rfl, hr⟩
  · exact .inl ⟨rfl, Frame.refl h⟩

end Sending

section Routes

lemma Inv.exclude (h : Inv K s) (p : Prefix) :
    Inv K { s with utils := { s.utils with routesExcluded := s.utils.routesExcluded ++ [p.1] } } where
  ifindex := h.ifindex
  routesExcluded q hq := by
    rcases List.mem_append.mp hq with hq | hq
    · exact h.routesExcluded q hq
    · obtain rfl := List.mem_singleton.mp hq
      exact p.2
  routes := h.routes

lemma frame_nlsockHandleNewlink (h : Inv K s) (msg : Bytes) :
    Frame K s (s.nlsockHandleNewlink msg) ∧ (s.nlsockHandleNewlink msg).kernel = s.kernel ∧
      (s.nlsockHandleNewlink msg).utils.ifindex = s.utils.ifindex := by
  rw [nlsockHandleNewlink]
  split_ifs
  · exact ⟨Frame.refl h, rfl, rfl⟩
  · exact ⟨h.frame rfl rfl rfl ⟨rfl, rfl⟩, rfl, rfl⟩

/-- What is told of a link that is gone is true of the interface that there is. -/
def Truthful (K : Kernel κ ω) (s : System κ) (messages : List Bytes) : Prop :=
  ∀ nlmsg ∈ messages, nlmsgType nlmsg = RTM_DELLINK → K.device s.kernel ≠ some (ifiIndex (nlmsg.drop nlmsgs.header))

variable (hK : K.Documented)
include hK

lemma unicast_updateRoutePrefix (h : Inv K s) (p q : Prefix) :
    K.Unicast (updateRoutePrefix K p s).2.kernel q ↔
      if q = p ∧ (updateRoutePrefix K p s).1 = true ∧ K.takes s.kernel s.utils.ifindex (family p.1.address) = true then
        K.device s.kernel = some s.utils.ifindex
      else K.Unicast s.kernel q := by
  have hd : K.device (updateRoutePrefix K p s).2.kernel = K.device s.kernel := hK.device_sendto _ _
  have hr := routes_newRoute RTN_UNICAST hK h.ifindex p (.inl rfl)
  by_cases hc : (updateRoutePrefix K p s).1 = true ∧
      K.takes s.kernel s.utils.ifindex (family p.1.address) = true
  · rw [if_pos ⟨hc.1, .inr hc.2⟩] at hr
    rw [unicast_update hd hr]
    by_cases hq : q = p
    · simp [hq, hc, WireguardUtilsLinux.routeOf]
      exact eq_comm
    · simp [hq]
  · rw [if_neg fun hh => hc ⟨hh.1, hh.2.resolve_left (by decide)⟩] at hr
    rw [if_neg fun hh => hc hh.2]
    exact unicast_congr hd hr

lemma unicast_deleteRoutePrefix (h : Inv K s) (p q : Prefix) :
    K.Unicast (deleteRoutePrefix K p s).2.kernel q ↔
      K.Unicast s.kernel q ∧ ¬ (q = p ∧ (deleteRoutePrefix K p s).1 = true) := by
  have hd : K.device (deleteRoutePrefix K p s).2.kernel = K.device s.kernel := hK.device_sendto _ _
  obtain ⟨left, hr, hl, hgone, hkept⟩ := routes_delRoute RTN_UNICAST hK h.ifindex p (.inl rfl)
  rw [unicast_update hd hr]
  by_cases hq : q = p
  · subst hq
    simp only [true_and, ne_eq, not_true_eq_false, false_and, or_false]
    cases hs : (deleteRoutePrefix K q s).1 with
    | false =>
      rw [hkept hs]
      simp [Kernel.Unicast]
    | true =>
      refine iff_of_false ?_ fun hh => hh.2 rfl
      rintro ⟨route, rfl, ht, -⟩
      have hroute : K.routes s.kernel (routeKey q.1) = some route := (hl.resolve_left (Option.some_ne_none _)).symm
      obtain ⟨-, ho, -⟩ | ⟨ht', -⟩ := h.routes _ route hroute
      · exact Option.some_ne_none _ (hgone hs route hroute ht ho)
      · exact absurd (ht.symm.trans ht') (by decide)
  · simp [hq]

lemma Inv.excludeNetwork (h : Inv K s) (p : Prefix) : Inv K (excludeNetwork K p s).2 :=
  (h.exclude p).newRoute hK p (.inr rfl) fun _ ht => absurd ht (by decide)

lemma unicast_excludeNetwork (h : Inv K s) (p q : Prefix) :
    K.Unicast (System.excludeNetwork K p s).2.kernel q ↔
      K.Unicast s.kernel q ∧ ¬ (q = p ∧ (System.excludeNetwork K p s).1 = true) := by
  have hd : K.device (System.excludeNetwork K p s).2.kernel = K.device s.kernel := hK.device_sendto _ _
  have hr := routes_newRoute RTN_THROW hK (h.exclude p).ifindex p (.inr rfl)
  by_cases hs : (System.excludeNetwork K p s).1 = true
  · rw [if_pos ⟨hs, .inl rfl⟩] at hr
    rw [unicast_update hd hr]
    by_cases hq : q = p
    · simp [hq, hs, WireguardUtilsLinux.routeOf, RTN_THROW, RTN_UNICAST]
    · simp [hq]
  · rw [if_neg fun hh => hs hh.1] at hr
    simp [unicast_congr hd hr, hs]

lemma excludeLocalNetworks_frame (ps : List Prefix) (h : Inv K s) :
    (excludeLocalNetworks K ps s).1 = true ∧ (excludeLocalNetworks K ps s).2.interface = s.interface ∧
      Inv K (excludeLocalNetworks K ps s).2 := by
  induction ps generalizing s with
  | nil => exact ⟨rfl, rfl, h⟩
  | cons p ps ih => exact ih (h.excludeNetwork hK p)

lemma unicast_excludeLocalNetworks (ps : List Prefix) (h : Inv K s) (q : Prefix) :
    K.Unicast (excludeLocalNetworks K ps s).2.kernel q ↔ K.Unicast s.kernel q ∧ q ∉ taken K ps s := by
  induction ps generalizing s with
  | nil => simp [excludeLocalNetworks, forEach, succeed, taken]
  | cons p ps ih =>
    have he : excludeLocalNetworks K (p :: ps) s = excludeLocalNetworks K ps (System.excludeNetwork K p s).2 := rfl
    rw [he, ih (h.excludeNetwork hK p), unicast_excludeNetwork hK h, taken]
    split_ifs with hs
    · simp [hs, and_assoc]
    · simp [hs]

/-- The exclusions are deleted that are sent, and no route is added. -/
lemma clearExclusions_frame (ps : List IPAddress) (hps : ∀ p ∈ ps, p.Canonical) (h : Inv K s) :
    Inv K (clearExclusions K ps s) ∧ (clearExclusions K ps s).interface = s.interface ∧
      K.device (clearExclusions K ps s).kernel = K.device s.kernel ∧
      ∀ key route, K.routes (clearExclusions K ps s).kernel key = some route → K.routes s.kernel key = some route := by
  induction ps generalizing s with
  | nil => exact ⟨h, rfl, rfl, fun _ _ hk => hk⟩
  | cons p ps ih =>
    obtain ⟨hp, hps⟩ := List.forall_mem_cons.mp hps
    obtain ⟨hinv, hi, hd, hr⟩ := ih hps (h.delRoute hK ⟨p, hp⟩ (.inr rfl))
    exact ⟨hinv, hi, hd.trans (hK.device_sendto _ _), fun key route hk =>
      subset_delRoute hK h.ifindex ⟨p, hp⟩ (.inr rfl) (hr key route hk)⟩

/-- A link of which the socket is told that it is gone is not the interface that the routes go through. -/
lemma nlsockHandleDellink_cases (h : Inv K s) (msg : Bytes)
    (hm : K.device s.kernel ≠ some (ifiIndex msg)) :
    (ifiIndex msg ≠ s.utils.ifindex ∧ s.nlsockHandleDellink K msg = s) ∨
      (ifiIndex msg = s.utils.ifindex ∧ AllThrow K s ∧ (s.nlsockHandleDellink K msg).interface = s.interface ∧
        K.device (s.nlsockHandleDellink K msg).kernel = K.device s.kernel ∧
        (s.nlsockHandleDellink K msg).utils.routesExcluded = [] ∧ Inv K (s.nlsockHandleDellink K msg) ∧
        (s.nlsockHandleDellink K msg).kernel = (clearExclusions K s.utils.routesExcluded s).kernel ∧
        ∀ key route, K.routes (s.nlsockHandleDellink K msg).kernel key = some route →
          K.routes s.kernel key = some route) := by
  rw [nlsockHandleDellink]
  split_ifs with hi
  · exact .inl ⟨hi, rfl⟩
  · rw [not_not] at hi
    have ha : AllThrow K s := h.allThrow (hi ▸ hm)
    obtain ⟨-, hface, hd, hr⟩ := clearExclusions_frame hK s.utils.routesExcluded h.routesExcluded h
    have ha' : AllThrow K { clearExclusions K s.utils.routesExcluded s with
        utils := { (clearExclusions K s.utils.routesExcluded s).utils with
          routesExcluded := [], ifindex := 0, ifflags := 0 } } := fun key route hk => ha key route (hr key route hk)
    exact .inr ⟨hi, ha, hface, hd, rfl,
      ha'.inv (Nat.two_pow_pos 32) fun _ hp => absurd hp List.not_mem_nil, rfl, hr⟩

lemma same_nlsockHandleDellink (h : Inv K s) (msg : Bytes)
    (hm : K.device s.kernel ≠ some (ifiIndex msg)) :
    Same K s (s.nlsockHandleDellink K msg) ∧
      K.device (s.nlsockHandleDellink K msg).kernel = K.device s.kernel := by
  obtain ⟨-, he⟩ | ⟨-, ha, hface, hd, -, hinv, -, hr⟩ := nlsockHandleDellink_cases hK h msg hm
  · rw [he]
    exact ⟨Same.refl h, rfl⟩
  · have ha' : AllThrow K (s.nlsockHandleDellink K msg) := fun key route hk => ha key route (hr key route hk)
    exact ⟨⟨hinv, hface, fun _ => iff_of_false ha'.not_unicast ha.not_unicast⟩, hd⟩

lemma same_handleMessages (messages : List Bytes) (h : Inv K s) (hm : Truthful K s messages) :
    Same K s (handleMessages K messages s) := by
  induction messages generalizing s with
  | nil => exact Same.refl h
  | cons nlmsg messages ih =>
    obtain ⟨hn, hm⟩ := List.forall_mem_cons.mp hm
    rw [handleMessages]
    split_ifs with hdone hnew hdel
    · exact Same.refl h
    · obtain ⟨hf, hk, -⟩ := frame_nlsockHandleNewlink h (nlmsg.drop nlmsgs.header)
      have hs := ih hf.inv (by rw [Truthful, hk]; exact hm)
      exact ⟨hs.inv, hs.interface.trans hf.interface, fun q => (hs.unicast q).trans (hf.unicast q)⟩
    · obtain ⟨hd, hdev⟩ := same_nlsockHandleDellink hK h (nlmsg.drop nlmsgs.header) (hn hdel)
      have hs := ih hd.inv (by rw [Truthful, hdev]; exact hm)
      exact ⟨hs.inv, hs.interface.trans hd.interface, fun q => (hs.unicast q).trans (hd.unicast q)⟩
    · exact ih h hm

/-- Receiving changes nothing, and what is received is true. -/
lemma recv_cases (h : Inv K s) :
    Frame K s { s with kernel := (K.recv s.kernel).2 } ∧
      ∀ data, (K.recv s.kernel).1 = some data →
        Truthful K { s with kernel := (K.recv s.kernel).2 } (nlmsgs.walk data) := by
  have hr := hK.recv s.kernel
  refine ⟨h.frame rfl rfl rfl hr, fun data hdata nlmsg hn ht => ?_⟩
  rw [hr.1]
  exact hK.dellink _ data nlmsg hdata hn ht

lemma same_nlsockReady (h : Inv K s) : Same K s (s.nlsockReady K) := by
  obtain ⟨hf, ht⟩ := recv_cases hK h
  rw [nlsockReady]
  cases hdata : (K.recv s.kernel).1 with
  | none => exact hf.toSame
  | some data =>
    have hs := same_handleMessages hK (nlmsgs.walk data) hf.inv (ht data hdata)
    exact ⟨hs.inv, hs.interface.trans hf.interface, fun q => (hs.unicast q).trans (hf.unicast q)⟩

lemma frame_others (h : Inv K s) (o : ω) : Frame K s { s with kernel := K.others o s.kernel } :=
  h.frame rfl rfl rfl (hK.others o s.kernel)

end Routes

section Agreement

lemma inv_perform {op : Op} {a : Attempt (System κ)} (h : Inv K (a s).2) : Inv K (s.perform op a) :=
  ⟨h.ifindex, h.routesExcluded, h.routes⟩

/-- The index that the object knows is of no other interface. -/
def NotReused (K : Kernel κ ω) (s : System κ) : Event ω → Prop
  | .updateRoutePrefix p => (updateRoutePrefix K p s).1 = true →
    K.takes s.kernel s.utils.ifindex (family p.1.address) = true → K.device s.kernel = some s.utils.ifindex
  | _ => True

lemma Inv.step (hK : K.Documented) (h : Inv K s) (e : Event ω) (he : NotReused K s e) : Inv K (step K s e) := by
  cases e with
  | addInterface config setDevice firewall => exact inv_perform (frame_addInterface hK h).inv
  | deleteInterface firewall =>
    apply inv_perform
    obtain ⟨-, hf⟩ | ⟨-, -, hx, hi, ha, -⟩ := deleteInterface_cases hK h firewall
    · exact hf.inv
    · exact ha.inv (hi ▸ h.ifindex) (hx ▸ h.routesExcluded)
  | updateRoutePrefix p => exact inv_perform (h.newRoute hK p (.inl rfl) fun hs _ => he hs)
  | deleteRoutePrefix p => exact inv_perform (h.delRoute hK p (.inl rfl))
  | excludeLocalNetworks ps => exact inv_perform (excludeLocalNetworks_frame hK ps h).2.2
  | nlsockReady => exact (same_nlsockReady hK h).inv
  | others o => exact (frame_others hK h o).inv

lemma Inv.device_of_unicast (h : Inv K s) (hu : K.Unicast s.kernel q) : K.device s.kernel = some s.utils.ifindex := by
  obtain ⟨route, hr, ht, -⟩ := hu
  obtain ⟨-, -, hd⟩ | ⟨ht', -⟩ := h.routes _ route hr
  · exact hd
  · exact absurd (ht.symm.trans ht') (by decide)

lemma notReused_of_undisturbed (h : Inv K s) (ha : Agrees K s) {e : Event ω} (he : Undisturbed K s e) :
    NotReused K s e := by
  cases e with
  | updateRoutePrefix p =>
    intro hs _
    exact (he hs).elim And.left fun hp => h.device_of_unicast ((ha p).mp hp)
  | addInterface | deleteInterface | deleteRoutePrefix | excludeLocalNetworks | nlsockReady | others => trivial

lemma undisturbed_iff (hK : K.Documented) (h : Inv K s) (ha : Agrees K s) (e : Event ω) :
    Undisturbed K s e ↔ Agrees K (step K s e) := by
  cases e with
  | addInterface config setDevice firewall =>
    refine iff_of_true trivial fun q => ?_
    have hs : Frame K s (addInterface K setDevice firewall s).2 := frame_addInterface hK h
    have hi : (step K s (.addInterface config setDevice firewall : Event ω)).interface.routes =
        s.interface.routes := by
      rw [System.step, perform]
      dsimp only
      rw [hs.interface]
      split_ifs <;> rfl
    rw [hi]
    exact (ha q).trans (hs.unicast q).symm
  | deleteInterface firewall =>
    refine iff_of_true trivial ?_
    rw [System.step, perform]
    obtain ⟨hok, hf⟩ | ⟨hok, -, -, -, hall, -⟩ := deleteInterface_cases hK h firewall
    · rw [hok]
      exact hf.toSame.agrees.mpr ha
    · rw [hok]
      exact fun q => iff_of_false (by simp [Interface.apply]) hall.not_unicast
  | updateRoutePrefix p =>
    have hi : (updateRoutePrefix K p s).2.interface = s.interface := rfl
    have hiff : Agrees K (step K s (.updateRoutePrefix p : Event ω)) ↔ ∀ q : Prefix,
        (q.1 ∈ s.interface.routes ∨ q = p ∧ (updateRoutePrefix K p s).1 = true ↔
          K.Unicast (updateRoutePrefix K p s).2.kernel q) := by
      refine forall_congr' fun q => ?_
      rw [System.step, perform, hi]
      dsimp only
      split_ifs with hsent
      · simp [Interface.apply, Finset.mem_insert, Subtype.ext_iff, or_comm, hsent]
      · simp [hsent]
    rw [hiff]
    constructor
    · intro hu q
      rw [unicast_updateRoutePrefix hK h, ← ha q]
      split_ifs with hq
      · exact iff_of_true (.inr ⟨hq.1, hq.2.1⟩)
          ((hu hq.2.1).elim And.left fun hp => h.device_of_unicast ((ha p).mp hp))
      · refine or_iff_left_of_imp fun hh => ?_
        have hn := hu hh.2
        rw [hh.1]
        exact hn.resolve_left fun hd => hq ⟨hh.1, hh.2, hd.2⟩
    · intro hh hsent
      have hp := (hh p).mp (.inr ⟨rfl, hsent⟩)
      rw [unicast_updateRoutePrefix hK h, ← ha p] at hp
      split_ifs at hp with ht
      · exact .inl ⟨hp, ht.2.2⟩
      · exact .inr hp
  | deleteRoutePrefix p =>
    refine iff_of_true trivial fun q => ?_
    have hi : (deleteRoutePrefix K p s).2.interface = s.interface := rfl
    rw [System.step, perform, hi]
    dsimp only
    rw [unicast_deleteRoutePrefix hK h, ← ha q]
    split_ifs with hsent
    · simp [Interface.apply, Subtype.ext_iff, hsent, and_comm]
    · simp [hsent]
  | excludeLocalNetworks ps =>
    obtain ⟨hok, hi, -⟩ : _ ∧ _ ∧ Inv K (excludeLocalNetworks K ps s).2 := excludeLocalNetworks_frame hK ps h
    have hiff : Agrees K (step K s (.excludeLocalNetworks ps : Event ω)) ↔ ∀ q : Prefix,
        (q.1 ∈ s.interface.routes ↔ q.1 ∈ s.interface.routes ∧ q ∉ taken K ps s) := by
      refine forall_congr' fun q => ?_
      rw [System.step, perform, hok, hi]
      dsimp only
      rw [unicast_excludeLocalNetworks hK ps h q, ← ha q]
      rfl
    rw [hiff]
    constructor
    · intro hu q
      exact ⟨fun hq => ⟨hq, fun hp => hu q hp hq⟩, fun hh => hh.1⟩
    · intro hh q hq hm
      exact ((hh q).mp hm).2 hq
  | nlsockReady => exact iff_of_true trivial ((same_nlsockReady hK h).agrees.mpr ha)
  | others o => exact iff_of_true trivial ((frame_others hK h o).toSame.agrees.mpr ha)

/-- The start of the daemon. -/
def start (pid : ℕ) (kernel : κ) : System κ := { utils := { pid }, kernel }

lemma inv_start (pid : ℕ) (h : ∀ key, K.routes kernel key = none) : Inv K (start pid kernel) where
  ifindex := Nat.two_pow_pos 32
  routesExcluded _ hp := absurd hp List.not_mem_nil
  routes key _ hk := by
    rw [start, h key] at hk
    cases hk

lemma agrees_start (pid : ℕ) (h : ∀ key, K.routes kernel key = none) : Agrees K (start pid kernel) := fun q => by
  simp [start, Kernel.Unicast, h]

/-- The kernel has, all the way, the routes through the interface that the daemon believes in if and only if every
route is set for the interface that there is and that is up, and no exclusion takes the place of a route. -/
theorem meets_undisturbed_iff_agrees (hK : K.Documented) (pid : ℕ) (hr : ∀ key, K.routes kernel key = none)
    (es : List (Event ω)) :
    Meets (step K) (Undisturbed K) (start pid kernel) es ↔
      ∀ fs, fs <+: es → Agrees K (run (step K) (start pid kernel) fs) := by
  refine meets_iff_throughout (P := fun s => Inv K s ∧ Agrees K s) ?_ ?_ ⟨inv_start pid hr, agrees_start pid hr⟩
    (agrees_start pid hr)
  · intro s e h hc
    exact ⟨h.1.step hK e (notReused_of_undisturbed h.1 h.2 hc), (undisturbed_iff hK h.1 h.2 e).mp hc⟩
  · exact fun s e h => undisturbed_iff hK h.1 h.2 e

/-- The interface comes up, a prefix is routed through it, and a local network is excluded. -/
def gatewayEvents : List (Event Unit) :=
  [.addInterface { hopType := .SingleHop } true true, .others (), .updateRoutePrefix gatewayNetwork,
    .excludeLocalNetworks [localNetwork]]

theorem agrees_of_gateway : Agrees tables (run (step tables) (start 7 {}) gatewayEvents) := by
  have hm : Meets (step tables) (Undisturbed tables) (start 7 {}) gatewayEvents := by
    refine ⟨trivial, trivial, fun _ => .inl ⟨rfl, rfl⟩, fun p hp => ?_, trivial⟩
    obtain rfl := List.mem_singleton.mp hp
    exact of_decide_eq_true rfl
  exact (meets_undisturbed_iff_agrees tables_documented 7 (fun _ => rfl) gatewayEvents).mp hm _ List.prefix_rfl

end Agreement

section Cleanup

/-- Every route that keeps an exclusion out of the interface is recorded. -/
def Recorded (K : Kernel κ ω) (s : System κ) : Prop :=
  ∀ key route, K.routes s.kernel key = some route → route.type = RTN_THROW →
    ∃ p ∈ s.utils.routesExcluded, routeKey p = key

lemma Recorded.of_subset (hr : Recorded K s) (he : t.utils.routesExcluded = s.utils.routesExcluded)
    (h : ∀ key route, K.routes t.kernel key = some route → K.routes s.kernel key = some route) : Recorded K t := by
  rw [Recorded, he]
  exact fun key route hk => hr key route (h key route hk)

lemma Frame.recorded (h : Frame K s t) (hr : Recorded K s) : Recorded K t :=
  hr.of_subset h.routesExcluded fun _ _ hk => by rwa [h.routes] at hk

/-- What is left in the table is recorded, and is deleted when the socket is told that the interface is gone. -/
structure Draining (K : Kernel κ ω) (index : ℕ) (s : System κ) : Prop where
  inv : Inv K s
  recorded : Recorded K s
  allThrow : AllThrow K s
  told : s.utils.routesExcluded = [] ∨ s.utils.ifindex = index

lemma Draining.routes_eq_none (h : Draining K index s) (he : s.utils.routesExcluded = []) (key : RouteKey) :
    K.routes s.kernel key = none := by
  rw [Option.eq_none_iff_forall_ne_some]
  intro route hk
  obtain ⟨p, hp, -⟩ := h.recorded key route hk (h.allThrow key route hk).1
  rw [he] at hp
  cases hp

lemma Draining.frame (h : Draining K index s) (hf : Frame K s t) (hi : t.utils.ifindex = s.utils.ifindex) :
    Draining K index t :=
  ⟨hf.inv, hf.recorded h.recorded, hf.allThrow h.allThrow, by rw [hf.routesExcluded, hi]; exact h.told⟩

/-- The message that the interface is gone is among those of a datagram that are handled. -/
def Tells (index : ℕ) (data : Bytes) : Prop :=
  ∃ before nlmsg after, nlmsgs.walk data = before ++ nlmsg :: after ∧ nlmsgType nlmsg = RTM_DELLINK ∧
    ifiIndex (nlmsg.drop nlmsgs.header) = index ∧ ∀ m ∈ before, nlmsgType m ≠ NLMSG_DONE

/-- The daemon waits: it reads its socket, and others are at work. -/
def Waits : Event ω → Prop
  | .nlsockReady | .others _ => True
  | _ => False

lemma Recorded.newRoute (hK : K.Documented) (hr : Recorded K s) (h : Inv K s) (p : Prefix)
    (ht : type = RTN_UNICAST ∨ type = RTN_THROW) (hp : type = RTN_THROW → p.1 ∈ s.utils.routesExcluded) :
    Recorded K (send K (newRoute type p.1) s).2 := by
  intro key route hk htype
  rw [routes_newRoute type hK h.ifindex p ht] at hk
  split_ifs at hk with hs
  · rw [Function.update_apply] at hk
    split_ifs at hk with hkey
    · obtain rfl := Option.some.inj hk
      exact ⟨p.1, hp htype, hkey.symm⟩
    · exact hr key route hk htype
  · exact hr key route hk htype

lemma Recorded.excludeLocalNetworks (hK : K.Documented) (ps : List Prefix) (hr : Recorded K s) (h : Inv K s) :
    Recorded K (excludeLocalNetworks K ps s).2 := by
  induction ps generalizing s with
  | nil => exact hr
  | cons p ps ih =>
    apply ih _ (h.excludeNetwork hK p)
    refine Recorded.newRoute hK ?_ (h.exclude p) p (.inr rfl) fun _ => ?_
    · intro key route hk ht
      obtain ⟨q, hq, hkey⟩ := hr key route hk ht
      exact ⟨q, List.mem_append_left _ hq, hkey⟩
    · exact List.mem_append_right _ (List.mem_singleton_self p.1)

section Sent

variable (hK : K.Documented) (hsent : ∀ data k, (K.sendto data k).1 = true)
include hK hsent

/-- All the exclusions of a list are gone, if the messages are sent. -/
lemma clearExclusions_gone (ps : List IPAddress)
    (hps : ∀ p ∈ ps, p.Canonical) (h : Inv K s) {key : RouteKey} {route : Route}
    (hk : K.routes (clearExclusions K ps s).kernel key = some route) (ht : route.type = RTN_THROW) :
    ∀ p ∈ ps, routeKey p ≠ key := by
  induction ps generalizing s with
  | nil => exact fun _ hp => absurd hp List.not_mem_nil
  | cons p ps ih =>
    obtain ⟨hp, hps⟩ := List.forall_mem_cons.mp hps
    have hinv : Inv K (send K (delRoute RTN_THROW p) s).2 := h.delRoute hK ⟨p, hp⟩ (.inr rfl)
    refine List.forall_mem_cons.mpr ⟨?_, ih hps hinv hk⟩
    rintro rfl
    have hk' := (clearExclusions_frame hK ps hps hinv).2.2.2 (routeKey p) route hk
    obtain ⟨left, hr, -, hgone, -⟩ := routes_delRoute RTN_THROW hK h.ifindex ⟨p, hp⟩ (.inr rfl)
    have hs := subset_delRoute hK h.ifindex ⟨p, hp⟩ (.inr rfl) hk'
    have ho : route.oif = none := ((h.routes _ route hs).resolve_left fun hh =>
      absurd (hh.1.symm.trans ht) (by decide)).2
    rw [hr, Function.update_self, hgone (hsent _ _) route hs ht ho] at hk'
    cases hk'

/-- The exclusions go when the link is the interface, and stay as they are when it is not. -/
lemma Draining.nlsockHandleDellink
    (h : Draining K index s) (msg : Bytes) (hm : K.device s.kernel ≠ some (ifiIndex msg)) :
    Draining K index (s.nlsockHandleDellink K msg) ∧
      (ifiIndex msg = index ∨ s.utils.routesExcluded = [] →
        (s.nlsockHandleDellink K msg).utils.routesExcluded = []) := by
  obtain ⟨hi, he⟩ | ⟨-, ha, -, -, hx, hinv, hkernel, hr⟩ := nlsockHandleDellink_cases hK h.inv msg hm
  · rw [he]
    refine ⟨h, fun hh => ?_⟩
    rcases hh with rfl | hh
    · exact h.told.resolve_right (Ne.symm hi)
    · exact hh
  · have ha' : AllThrow K (s.nlsockHandleDellink K msg) := fun key route hk => ha key route (hr key route hk)
    refine ⟨⟨hinv, fun key route hk ht => ?_, ha', .inl hx⟩, fun _ => hx⟩
    obtain ⟨p, hp, hkey⟩ := h.recorded key route (hr key route hk) ht
    rw [hkernel] at hk
    exact absurd hkey (clearExclusions_gone hK hsent _ h.inv.routesExcluded h.inv hk ht p hp)

lemma Draining.handleMessages
    (messages : List Bytes) (h : Draining K index s) (hm : Truthful K s messages) :
    Draining K index (handleMessages K messages s) ∧
      (s.utils.routesExcluded = [] → (handleMessages K messages s).utils.routesExcluded = []) := by
  induction messages generalizing s with
  | nil => exact ⟨h, id⟩
  | cons nlmsg messages ih =>
    obtain ⟨hn, hm⟩ := List.forall_mem_cons.mp hm
    rw [System.handleMessages]
    split_ifs with hdone hnew hdel
    · exact ⟨h, id⟩
    · obtain ⟨hf, hk, hi⟩ := frame_nlsockHandleNewlink h.inv (nlmsg.drop nlmsgs.header)
      have hs := ih (h.frame hf hi) (by rw [Truthful, hk]; exact hm)
      exact ⟨hs.1, fun he => hs.2 (hf.routesExcluded.trans he)⟩
    · obtain ⟨hd, he⟩ := h.nlsockHandleDellink hK hsent (nlmsg.drop nlmsgs.header) (hn hdel)
      have hdev := (same_nlsockHandleDellink hK h.inv (nlmsg.drop nlmsgs.header) (hn hdel)).2
      have hs := ih hd (by rw [Truthful, hdev]; exact hm)
      exact ⟨hs.1, fun hx => hs.2 (he (.inr hx))⟩
    · exact ih h hm

lemma Draining.told_of_tells
    {before after : List Bytes} {nlmsg : Bytes} (h : Draining K index s)
    (hm : Truthful K s (before ++ nlmsg :: after)) (ht : nlmsgType nlmsg = RTM_DELLINK)
    (hi : ifiIndex (nlmsg.drop nlmsgs.header) = index) (hb : ∀ m ∈ before, nlmsgType m ≠ NLMSG_DONE) :
    (System.handleMessages K (before ++ nlmsg :: after) s).utils.routesExcluded = [] := by
  induction before generalizing s with
  | nil =>
    obtain ⟨hn, hm⟩ := List.forall_mem_cons.mp hm
    obtain ⟨hd, he⟩ := h.nlsockHandleDellink hK hsent (nlmsg.drop nlmsgs.header) (hn ht)
    have hdev := (same_nlsockHandleDellink hK h.inv (nlmsg.drop nlmsgs.header) (hn ht)).2
    rw [List.nil_append, System.handleMessages, ht, if_neg (by decide), if_neg (by decide), if_pos rfl]
    exact (hd.handleMessages hK hsent after (by rw [Truthful, hdev]; exact hm)).2 (he (.inl hi))
  | cons m before ih =>
    obtain ⟨hn, hm⟩ := List.forall_mem_cons.mp hm
    obtain ⟨hdone, hb⟩ := List.forall_mem_cons.mp hb
    rw [List.cons_append, System.handleMessages, if_neg hdone]
    split_ifs with hnew hdel
    · obtain ⟨hf, hk, hi⟩ := frame_nlsockHandleNewlink h.inv (m.drop nlmsgs.header)
      exact ih (h.frame hf hi) (by rw [Truthful, hk]; exact hm) hb
    · have hd := (h.nlsockHandleDellink hK hsent (m.drop nlmsgs.header) (hn hdel)).1
      have hdev := (same_nlsockHandleDellink hK h.inv (m.drop nlmsgs.header) (hn hdel)).2
      exact ih hd (by rw [Truthful, hdev]; exact hm) hb
    · exact ih h hm hb

lemma Draining.nlsockReady
    (h : Draining K index s) :
    Draining K index (s.nlsockReady K) ∧
      (s.utils.routesExcluded = [] → (s.nlsockReady K).utils.routesExcluded = []) ∧
      ∀ data, (K.recv s.kernel).1 = some data → Tells index data →
        (s.nlsockReady K).utils.routesExcluded = [] := by
  obtain ⟨hf, ht⟩ := recv_cases hK h.inv
  have hd := h.frame hf rfl
  rw [System.nlsockReady]
  cases hdata : (K.recv s.kernel).1 with
  | none => exact ⟨hd, id, fun _ hs => by cases hs⟩
  | some data =>
    have hm := hd.handleMessages hK hsent (nlmsgs.walk data) (ht data hdata)
    refine ⟨hm.1, hm.2, fun data' hs htells => ?_⟩
    obtain rfl := Option.some.inj hs
    obtain ⟨before, nlmsg, after, hw, htype, hi, hb⟩ := htells
    have hmessages := ht data hdata
    rw [hw] at hmessages
    dsimp only
    rw [hw]
    exact hd.told_of_tells hK hsent hmessages htype hi hb

lemma Draining.step (h : Draining K index s)
    {e : Event ω} (he : Waits e) :
    Draining K index (step K s e) ∧ (s.utils.routesExcluded = [] → (step K s e).utils.routesExcluded = []) := by
  cases e with
  | nlsockReady => exact ⟨(h.nlsockReady hK hsent).1, (h.nlsockReady hK hsent).2.1⟩
  | others o => exact ⟨h.frame (frame_others hK h.inv o) rfl, id⟩
  | addInterface | deleteInterface | updateRoutePrefix | deleteRoutePrefix | excludeLocalNetworks => exact he.elim

lemma Draining.run (h : Draining K index s)
    {es : List (Event ω)} (he : ∀ e ∈ es, Waits e) :
    Draining K index (run (System.step K) s es) ∧
      (s.utils.routesExcluded = [] → (run (System.step K) s es).utils.routesExcluded = []) := by
  induction es generalizing s with
  | nil => exact ⟨h, id⟩
  | cons e es ih =>
    obtain ⟨he, hes⟩ := List.forall_mem_cons.mp he
    obtain ⟨hs, hx⟩ := h.step hK hsent he
    exact ⟨(ih hs hes).1, fun hh => (ih hs hes).2 (hx hh)⟩

lemma Recorded.nlsockHandleDellink
    (hr : Recorded K s) (h : Inv K s) (msg : Bytes) (hm : K.device s.kernel ≠ some (ifiIndex msg)) :
    Recorded K (s.nlsockHandleDellink K msg) := by
  obtain ⟨-, he⟩ | ⟨hi, ha, -⟩ := nlsockHandleDellink_cases hK h msg hm
  · rw [he]
    exact hr
  · have hd : Draining K (ifiIndex msg) s := ⟨h, hr, ha, .inr hi.symm⟩
    exact (hd.nlsockHandleDellink hK hsent msg hm).1.recorded

lemma Recorded.handleMessages
    (messages : List Bytes) (hr : Recorded K s) (h : Inv K s) (hm : Truthful K s messages) :
    Recorded K (handleMessages K messages s) := by
  induction messages generalizing s with
  | nil => exact hr
  | cons nlmsg messages ih =>
    obtain ⟨hn, hm⟩ := List.forall_mem_cons.mp hm
    rw [System.handleMessages]
    split_ifs with hdone hnew hdel
    · exact hr
    · obtain ⟨hf, hk, -⟩ := frame_nlsockHandleNewlink h (nlmsg.drop nlmsgs.header)
      exact ih (hf.recorded hr) hf.inv (by rw [Truthful, hk]; exact hm)
    · obtain ⟨hd, hdev⟩ := same_nlsockHandleDellink hK h (nlmsg.drop nlmsgs.header) (hn hdel)
      exact ih (hr.nlsockHandleDellink hK hsent h _ (hn hdel)) hd.inv (by rw [Truthful, hdev]; exact hm)
    · exact ih hr h hm

lemma Recorded.nlsockReady (hr : Recorded K s)
    (h : Inv K s) : Recorded K (s.nlsockReady K) := by
  obtain ⟨hf, ht⟩ := recv_cases hK h
  rw [System.nlsockReady]
  cases hdata : (K.recv s.kernel).1 with
  | none => exact hf.recorded hr
  | some data => exact Recorded.handleMessages hK hsent _ (hf.recorded hr) hf.inv (ht data hdata)

lemma Recorded.step (hr : Recorded K s)
    (h : Inv K s) (e : Event ω) : Recorded K (step K s e) := by
  cases e with
  | addInterface config setDevice firewall => exact (frame_addInterface hK h).recorded hr
  | deleteInterface firewall =>
    obtain ⟨-, hf⟩ | ⟨-, -, hx, -, -, hsub⟩ := deleteInterface_cases hK h firewall
    · exact hf.recorded hr
    · exact hr.of_subset hx hsub
  | updateRoutePrefix p => exact hr.newRoute hK h p (.inl rfl) fun hp => absurd hp (by decide)
  | deleteRoutePrefix p =>
    exact hr.of_subset rfl fun _ _ hk => subset_delRoute hK h.ifindex p (.inl rfl) hk
  | excludeLocalNetworks ps => exact hr.excludeLocalNetworks hK ps h
  | nlsockReady => exact hr.nlsockReady hK hsent h
  | others o => exact (frame_others hK h o).recorded hr

lemma recorded_run {pid : ℕ}
    (h₀ : ∀ key, K.routes kernel key = none) {es : List (Event ω)}
    (hm : Meets (System.step K) (NotReused K) (start pid kernel) es) :
    Inv K (run (System.step K) (start pid kernel) es) ∧ Recorded K (run (System.step K) (start pid kernel) es) := by
  refine hm.invariant (P := fun s => Inv K s ∧ Recorded K s)
    (fun s e h he => ⟨h.1.step hK e he, h.2.step hK hsent h.1 e⟩) ⟨inv_start pid h₀, fun key _ hk => ?_⟩
  rw [start, h₀ key] at hk
  cases hk

end Sent

/-- No route outlives the interface that the daemon has set up, once a datagram is read that tells that it is gone. -/
theorem routes_eq_none_of_deleteInterface (hK : K.Documented) (hsent : ∀ data k, (K.sendto data k).1 = true) (pid : ℕ)
    (h₀ : ∀ key, K.routes kernel key = none) {es before after : List (Event ω)} {data : Bytes}
    (hm : Meets (step K) (NotReused K) (start pid kernel) es)
    (hd : (deleteInterface K true (run (step K) (start pid kernel) es)).1 = true)
    (hb : ∀ e ∈ before, Waits e) (ha : ∀ e ∈ after, Waits e)
    (hr : (K.recv
      (run (step K) (start pid kernel) (es ++ .deleteInterface true :: before)).kernel).1 = some data)
    (ht : Tells (run (step K) (start pid kernel) es).utils.ifindex data) (key : RouteKey) :
    K.routes (run (step K) (start pid kernel)
      (es ++ .deleteInterface true :: before ++ .nlsockReady :: after)).kernel key = none := by
  obtain ⟨hinv, hrec⟩ := recorded_run hK hsent h₀ hm
  rw [run_append] at hr
  rw [run_append, run_append]
  generalize run (step K) (start pid kernel) es = s at hd hr ht hinv hrec ⊢
  obtain ⟨hf, -⟩ | ⟨-, -, hx, hi, hall, -⟩ := deleteInterface_cases hK hinv true
  · exact absurd (hd.symm.trans hf) (by decide)
  have hdrain : Draining K s.utils.ifindex (step K s (.deleteInterface true : Event ω)) :=
    ⟨hinv.step hK _ trivial, hrec.step hK hsent hinv _, hall, .inr hi⟩
  obtain ⟨hbefore, -⟩ := hdrain.run hK hsent hb
  obtain ⟨hread, -, hgone⟩ := hbefore.nlsockReady hK hsent
  obtain ⟨hafter, hkept⟩ := hread.run hK hsent ha
  exact hafter.routes_eq_none (hkept (hgone data hr ht)) key

lemma run_acks (headers : List Bytes) (notes : List Note) {s : System Tables}
    (h : s.kernel.waiting = headers.map .ack ++ notes) :
    run (step tables) s (List.replicate headers.length .nlsockReady) =
      { s with kernel := { s.kernel with waiting := notes } } := by
  induction headers generalizing s with
  | nil =>
    rw [List.map_nil, List.nil_append] at h
    rw [← h]
    rfl
  | cons header headers ih =>
    have hs : step tables s .nlsockReady =
        { s with kernel := { s.kernel with waiting := headers.map .ack ++ notes } } := by
      obtain ⟨hw, ht, -⟩ := walk_toBytes (.ack header)
      simp only [step, nlsockReady, tables, h, List.map_cons, List.cons_append, hw, handleMessages, ht]
      rfl
    rw [List.length_cons, List.replicate_succ, run_cons, hs, ih rfl]

/-- The interface is deleted; the acknowledgements are read before the link is gone. -/
theorem routes_eq_none_of_deleteInterface_exclusion :
    tables.routes (run (step tables) (start 7 {})
      (gatewayEvents ++ .deleteInterface true :: List.replicate 6 .nlsockReady ++ .nlsockReady :: [])).kernel
      (routeKey localNetwork.1) = none := by
  have hw := run_acks (s := run (step tables) (start 7 {}) [.addInterface { hopType := .SingleHop } true true,
      .others (), .updateRoutePrefix gatewayNetwork, .excludeLocalNetworks [localNetwork], .deleteInterface true])
    _ [.gone 3] (show _ = List.map Note.ack [_, _, _, _, _, _] ++ [.gone 3] from rfl)
  have hr : (tables.recv (run (step tables) (start 7 {})
      (gatewayEvents ++ .deleteInterface true :: List.replicate 6 .nlsockReady)).kernel).1 =
        some (Note.gone 3).toNlMsg.toBytes := by
    rw [List.append_cons, run_append]
    exact (congrArg (fun s : System Tables => (tables.recv s.kernel).1) hw).trans rfl
  have hm : Meets (step tables) (NotReused tables) (start 7 {}) gatewayEvents :=
    ⟨trivial, trivial, fun _ _ => rfl, trivial, trivial⟩
  have hb : ∀ e ∈ List.replicate 6 (Event.nlsockReady : Event Unit), Waits e := fun e he => by
    rw [List.eq_of_mem_replicate he]
    trivial
  obtain ⟨hwalk, ht, hp⟩ := walk_toBytes (.gone 3)
  have hi : ifiIndex ((Note.gone 3).toNlMsg.toBytes.drop nlmsgs.header) = 3 := by
    rw [hp, ifiIndex_gone]
    rfl
  exact routes_eq_none_of_deleteInterface tables_documented (fun _ _ => rfl) 7 (fun _ => rfl) hm rfl hb
    (fun _ he => by cases he) hr ⟨[], _, [], hwalk, ht, hi, fun _ hm => absurd hm List.not_mem_nil⟩ _

end Cleanup

end System

end VpnClient.Linux.RouteMessages
