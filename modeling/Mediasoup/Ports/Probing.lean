import Mediasoup.Ports.PortManager

/-!
# The search for a port

The loop of `Bind` makes one round over the places of the vector (`probed_probe`). With one place for each port (`Sized`) it comes
to every port of the range once before it gives up (`bindCorrect`), and `Unbind` frees the port it is given (`unbindCorrect`). But
the number of ports has sixteen bits and is 0 for the range of all ports (`numPorts_toNat`): then the vector is empty, and `Bind`
gives up at once.
-/

namespace Mediasoup.Ports

open Lib List

/-! ## The loop -/

structure Probed (ports : List Bool) (places : List Nat) (r : Probe) : Prop where
  tried : ∀ i ∈ r.tried, i ∈ places ∧ ports.getD i false = false
  chosen : ∀ i, r.outcome = .ok i → i ∈ r.tried
  exhausted : ∀ k, r.outcome = .error (.noMoreAvailablePorts k) →
    r.visited = places ∧ ∀ i ∈ places, ports.getD i false = false → i ∈ r.refused

namespace Probed

variable {ports : List Bool} {places : List Nat} {r : Probe} {i : Nat}

theorem skip (h : Probed ports places r) (huse : ports.getD i false = true) :
    Probed ports (i :: places) { r with visited := i :: r.visited } where
  tried j hj := ⟨mem_cons_of_mem _ (h.tried j hj).1, (h.tried j hj).2⟩
  chosen := h.chosen
  exhausted k hk := by
    obtain ⟨hvisited, hrefused⟩ := h.exhausted k hk
    refine ⟨congrArg (i :: ·) hvisited, fun j hj hfree => ?_⟩
    rcases mem_cons.mp hj with rfl | hj
    · rw [huse] at hfree
      cases hfree
    · exact hrefused j hj hfree

theorem refuse (h : Probed ports places r) (hfree : ports.getD i false = false) : Probed ports (i :: places)
      { r with visited := i :: r.visited, tried := i :: r.tried, refused := i :: r.refused } where
  tried j hj := by
    rcases mem_cons.mp hj with rfl | hj
    · exact ⟨mem_cons_self, hfree⟩
    · exact ⟨mem_cons_of_mem _ (h.tried j hj).1, (h.tried j hj).2⟩
  chosen j hj := mem_cons_of_mem _ (h.chosen j hj)
  exhausted k hk := by
    obtain ⟨hvisited, hrefused⟩ := h.exhausted k hk
    refine ⟨congrArg (i :: ·) hvisited, fun j hj hfree => ?_⟩
    rcases mem_cons.mp hj with rfl | hj
    · exact mem_cons_self
    · exact mem_cons_of_mem _ (hrefused j hj hfree)

theorem stop (hfree : ports.getD i false = false) (htried : ∀ j ∈ r.tried, j = i)
    (hchosen : ∀ j, r.outcome = .ok j → j ∈ r.tried) (hmore : ∀ k, r.outcome ≠ .error (.noMoreAvailablePorts k)) :
    Probed ports (i :: places) r where
  tried j hj := by
    obtain rfl := htried j hj
    exact ⟨mem_cons_self, hfree⟩
  chosen := hchosen
  exhausted k hk := absurd hk (hmore k)

end Probed

theorem probed_probe (settings : Settings) (transport : Transport) (os : Nat → OsAnswer) (ports : List Bool) :
    ∀ left portIdx, Probed ports (Ring.round ports.length portIdx left)
      (PortManager.probe settings transport os ports left portIdx)
  | 0, _ => ⟨by simp [PortManager.probe], by simp [PortManager.probe], by simp [PortManager.probe, Ring.round]⟩
  | left + 1, portIdx => by
    have ih := probed_probe settings transport os ports left ((portIdx + 1) % ports.length)
    rw [PortManager.probe, Ring.round]
    split
    case isTrue huse => exact ih.skip huse
    case isFalse hfree =>
      rw [Bool.not_eq_true] at hfree
      split
      case h_1 => exact .stop hfree (by simp) (by simp) (by simp)
      case h_2 =>
        split
        case h_1 => exact .stop hfree (by simp) (by simp) (by simp)
        case h_2 => exact .stop hfree (by simp) (by simp) (by simp)
        case h_3 => exact .stop hfree (by simp) (by simp) (by simp)
        case h_4 => exact ih.refuse hfree

/-! ## Ports and places -/

namespace Settings

variable {settings : Settings} {port : UInt16} {i : Nat}

theorem numPorts_toNat (settings : Settings) :
    settings.numPorts.toNat = (settings.rtcMaxPort.toNat - settings.rtcMinPort.toNat + 1) % 65536 := by
  rw [numPorts, UInt16.toNat_add, UInt16.toNat_sub_of_le _ _ settings.le]
  rfl

theorem numPorts_le (settings : Settings) :
    settings.numPorts.toNat ≤ settings.rtcMaxPort.toNat - settings.rtcMinPort.toNat + 1 := by
  rw [numPorts_toNat]
  exact Nat.mod_le _ _

theorem numPorts_of_not_isFull (h : ¬ settings.IsFull) :
    settings.numPorts.toNat = settings.rtcMaxPort.toNat - settings.rtcMinPort.toNat + 1 := by
  have hmax := settings.rtcMaxPort.toNat_lt
  rw [numPorts_toNat]
  refine Nat.mod_eq_of_lt (Nat.lt_of_not_le fun hge => h ⟨?_, ?_⟩)
  · refine UInt16.toNat_inj.mp ?_
    change settings.rtcMinPort.toNat = 0
    omega
  · refine UInt16.toNat_inj.mp ?_
    change settings.rtcMaxPort.toNat = 65535
    omega

theorem portAt_toNat (h : i < settings.numPorts.toNat) : (settings.portAt i).toNat = i + settings.rtcMinPort.toNat := by
  have hle := settings.numPorts_le
  have hmax := settings.rtcMaxPort.toNat_lt
  have hmin := UInt16.le_iff_toNat_le.mp settings.le
  exact Nat.mod_eq_of_lt (by omega)

theorem has_portAt (h : i < settings.numPorts.toNat) : settings.Has (settings.portAt i) := by
  have hle := settings.numPorts_le
  have hmin := UInt16.le_iff_toNat_le.mp settings.le
  constructor
  · rw [UInt16.le_iff_toNat_le, portAt_toNat h]
    omega
  · rw [UInt16.le_iff_toNat_le, portAt_toNat h]
    omega

theorem placeOf_portAt (h : i < settings.numPorts.toNat) : settings.placeOf (settings.portAt i) = i := by
  rw [placeOf, portAt_toNat h, Nat.add_sub_cancel]

theorem portAt_placeOf (h : settings.Has port) : settings.portAt (settings.placeOf port) = port := by
  have hmin := UInt16.le_iff_toNat_le.mp h.1
  rw [portAt, placeOf, Nat.sub_add_cancel hmin, UInt16.ofNat_toNat]

theorem placeOf_lt (hfull : ¬ settings.IsFull) (h : settings.Has port) : settings.placeOf port < settings.numPorts.toNat := by
  have hmax := UInt16.le_iff_toNat_le.mp h.2
  rw [placeOf, numPorts_of_not_isFull hfull]
  omega

theorem placeOf_inj {p q : UInt16} (hp : settings.Has p) (hq : settings.Has q)
    (h : settings.placeOf p = settings.placeOf q) : p = q := by
  rw [← portAt_placeOf hp, h, portAt_placeOf hq]

end Settings

/-! ## The marks -/

namespace PortManager

variable {settings : Settings} {m : PortManager} {transport t : Transport} {ip ip' : String} {ports : List Bool}
  {port q : UInt16}

def Sized (settings : Settings) (m : PortManager) : Prop :=
  ∀ transport ip ports, (m.ipPorts transport).lookup ip = some ports → ports.length = settings.numPorts.toNat

theorem sized_empty : Sized settings {} := by
  intro transport ip ports h
  cases transport <;> cases h

theorem lookup_setPorts : ((m.setPorts transport ip ports).ipPorts t).lookup ip' =
    if t = transport ∧ ip' = ip then some ports else (m.ipPorts t).lookup ip' := by
  by_cases hip : ip' = ip
  · subst hip
    cases transport <;> cases t <;> simp [setPorts, ipPorts]
  · cases transport <;> cases t <;> simp [setPorts, ipPorts, hip]

theorem Sized.setPorts (h : Sized settings m) (hlen : ports.length = settings.numPorts.toNat) :
    Sized settings (m.setPorts transport ip ports) := by
  intro t ip' ps hps
  rw [lookup_setPorts] at hps
  split at hps
  · cases hps
    exact hlen
  · exact h t ip' ps hps

theorem marked_setPorts : (m.setPorts transport ip ports).Marked settings t ip' q ↔
    if t = transport ∧ ip' = ip then settings.Has q ∧ ports.getD (settings.placeOf q) false = true
    else m.Marked settings t ip' q := by
  rw [Marked, lookup_setPorts]
  split
  · exact and_congr_right fun _ => ⟨fun ⟨_, rfl, h⟩ => h, fun h => ⟨ports, rfl, h⟩⟩
  · rfl

theorem marked_of_lookup (h : (m.ipPorts transport).lookup ip = some ports) :
    m.Marked settings transport ip q ↔ settings.Has q ∧ ports.getD (settings.placeOf q) false = true := by
  rw [Marked, h]
  exact and_congr_right fun _ => ⟨fun ⟨_, rfl, h⟩ => h, fun h => ⟨ports, rfl, h⟩⟩

theorem marked_set {b : Bool} (hlookup : (m.ipPorts transport).lookup ip = some ports) (hport : settings.Has port)
    (hlt : settings.placeOf port < ports.length) (t : Transport) (ip' : String) (q : UInt16) :
    (m.setPorts transport ip (ports.set (settings.placeOf port) b)).Marked settings t ip' q ↔
      if t = transport ∧ ip' = ip ∧ q = port then b = true else m.Marked settings t ip' q := by
  rw [marked_setPorts]
  by_cases htable : t = transport ∧ ip' = ip
  · obtain ⟨rfl, rfl⟩ := htable
    rw [if_pos ⟨rfl, rfl⟩, marked_of_lookup hlookup, getD_eq_getElem?_getD, getD_eq_getElem?_getD]
    by_cases hq : q = port
    · subst hq
      rw [if_pos ⟨rfl, rfl, rfl⟩, List.getElem?_set_self hlt]
      exact and_iff_right hport
    · rw [if_neg fun h => hq h.2.2]
      refine and_congr_right fun hhas => ?_
      rw [List.getElem?_set_ne fun h => hq (Settings.placeOf_inj hhas hport h.symm)]
  · rw [if_neg htable, if_neg fun h => htable ⟨h.1, h.2.1⟩]

theorem getPorts_spec (hm : Sized settings m) (transport : Transport) (ip : String) : let r := m.getPorts settings transport ip
    (r.1.ipPorts transport).lookup ip = some r.2 ∧ Sized settings r.1 ∧
      ∀ t ip' q, r.1.Marked settings t ip' q ↔ m.Marked settings t ip' q := by
  unfold getPorts
  split
  case h_1 ports hports => exact ⟨hports, hm, fun _ _ _ => Iff.rfl⟩
  case h_2 hnone =>
    refine ⟨by rw [lookup_setPorts, if_pos ⟨rfl, rfl⟩], hm.setPorts length_replicate, fun t ip' q => ?_⟩
    rw [marked_setPorts]
    split
    case isTrue heq =>
      obtain ⟨rfl, rfl⟩ := heq
      have hfree : (List.replicate settings.numPorts.toNat false).getD (settings.placeOf q) false = false := by
        rw [getD_eq_getElem?_getD, List.getElem?_replicate]
        split <;> rfl
      rw [hfree, Marked, hnone]
      simp
    case isFalse => rfl

/-! ## The calls -/

structure BindCorrect (settings : Settings) (m : PortManager) (transport : Transport) (env : BindEnv) : Prop where
  fresh : ∀ ip port, env.normalizedIp = some ip → (m.bind settings transport env).outcome = .ok port →
    ¬ m.Marked settings transport ip port
  inRange : ∀ port ∈ (m.bind settings transport env).tried, settings.Has port
  returned : ∀ port, (m.bind settings transport env).outcome = .ok port → port ∈ (m.bind settings transport env).tried
  marks : ∀ port, (m.bind settings transport env).outcome = .ok port → ∀ t ip q,
    ((m.bind settings transport env).manager.Marked settings t ip q ↔
      (t = transport ∧ some ip = env.normalizedIp ∧ q = port) ∨ m.Marked settings t ip q)
  exhausted : ∀ ip k, env.normalizedIp = some ip → (m.bind settings transport env).outcome = .error (.noMoreAvailablePorts k) →
    (m.bind settings transport env).visited.Nodup ∧
    (∀ q, q ∈ (m.bind settings transport env).visited ↔ settings.Has q) ∧
    ∀ q, settings.Has q → ¬ m.Marked settings transport ip q → q ∈ (m.bind settings transport env).refused
  unchanged : ∀ e, (m.bind settings transport env).outcome = .error e → ∀ t ip q,
    ((m.bind settings transport env).manager.Marked settings t ip q ↔ m.Marked settings t ip q)

/-- `Unbind` frees the given port and no other. -/
def UnbindCorrect (settings : Settings) (m : PortManager) (transport : Transport) (ip : String) (port : UInt16) : Prop :=
  ∃ m', m.unbind settings transport ip port = .ok m' ∧ ∀ t ip' q,
    (m'.Marked settings t ip' q ↔ m.Marked settings t ip' q ∧ ¬ (t = transport ∧ ip' = ip ∧ q = port))

section AfterLoop

variable {r : Probe} {start : Nat}

theorem place_lt (hpos : 0 < ports.length) {i : Nat} (hr : Probed ports (Ring.round ports.length start ports.length) r)
    (h : i ∈ r.tried) : i < ports.length :=
  (Ring.mem_round start hpos).mp (hr.tried i h).1

theorem afterLoop_exhausted (hfull : ¬ settings.IsFull) (hlen : ports.length = settings.numPorts.toNat)
    (hr : Probed ports (Ring.round ports.length start ports.length) r) {k : Nat}
    (hk : r.outcome = .error (.noMoreAvailablePorts k)) :
    (m.afterLoop settings transport ip ports r).visited.Nodup ∧
    (∀ q, q ∈ (m.afterLoop settings transport ip ports r).visited ↔ settings.Has q) ∧
    ∀ q, settings.Has q → ports.getD (settings.placeOf q) false = false →
      q ∈ (m.afterLoop settings transport ip ports r).refused := by
  obtain ⟨hvisited, hrefused⟩ := hr.exhausted k hk
  have hpos : 0 < ports.length := by
    rw [hlen, Settings.numPorts_of_not_isFull hfull]
    exact Nat.succ_pos _
  have hmem : ∀ i, i ∈ r.visited ↔ i < settings.numPorts.toNat := by
    intro i
    rw [hvisited, Ring.mem_round start hpos, hlen]
  refine ⟨?_, fun q => ?_, fun q hq hfree => ?_⟩
  · refine List.Nodup.map_on ?_ (hvisited ▸ Ring.nodup_round start (Nat.le_refl _))
    intro i hi j hj heq
    rw [← Settings.placeOf_portAt ((hmem i).mp hi), heq, Settings.placeOf_portAt ((hmem j).mp hj)]
  · constructor
    · intro h
      obtain ⟨i, hi, rfl⟩ := mem_map.mp h
      exact Settings.has_portAt ((hmem i).mp hi)
    · intro h
      exact mem_map.mpr ⟨_, (hmem _).mpr (Settings.placeOf_lt hfull h), Settings.portAt_placeOf h⟩
  · have hplace : settings.placeOf q ∈ Ring.round ports.length start ports.length :=
      hvisited ▸ (hmem _).mpr (Settings.placeOf_lt hfull hq)
    exact mem_map.mpr ⟨_, hrefused _ hplace hfree, Settings.portAt_placeOf hq⟩

theorem afterLoop_ok (hpos : 0 < ports.length) (hlen : ports.length = settings.numPorts.toNat)
    (hlookup : (m.ipPorts transport).lookup ip = some ports)
    (hr : Probed ports (Ring.round ports.length start ports.length) r)
    (hport : (m.afterLoop settings transport ip ports r).outcome = .ok port) :
    ¬ m.Marked settings transport ip port ∧ port ∈ (m.afterLoop settings transport ip ports r).tried ∧
    ∀ t ip' q, ((m.afterLoop settings transport ip ports r).manager.Marked settings t ip' q ↔
      (t = transport ∧ ip' = ip ∧ q = port) ∨ m.Marked settings t ip' q) := by
  cases hout : r.outcome with
  | error e =>
    simp only [afterLoop, hout] at hport
    cases hport
  | ok i =>
    have htried := hr.chosen i hout
    have hlt : i < settings.numPorts.toNat := hlen ▸ place_lt hpos hr htried
    have hhas := Settings.has_portAt hlt
    simp only [afterLoop, hout] at hport ⊢
    cases hport
    refine ⟨?_, mem_map_of_mem htried, fun t ip' q => ?_⟩
    · rw [marked_of_lookup hlookup, Settings.placeOf_portAt hlt, (hr.tried i htried).2]
      simp
    · have hset := marked_set (b := true) hlookup hhas (by rwa [Settings.placeOf_portAt hlt, hlen]) t ip' q
      rw [Settings.placeOf_portAt hlt] at hset
      rw [hset]
      split
      case isTrue heq => exact ⟨fun _ => .inl heq, fun _ => rfl⟩
      case isFalse hne => exact ⟨.inr, fun h => h.resolve_left hne⟩

theorem sized_afterLoop (hm : Sized settings m) (hlen : ports.length = settings.numPorts.toNat) :
    Sized settings (m.afterLoop settings transport ip ports r).manager := by
  unfold afterLoop
  split
  · exact hm.setPorts (length_set.trans hlen)
  · exact hm

end AfterLoop

variable {env : BindEnv}

theorem bindCorrect_of_thrown {m' : PortManager} {e : BindError} (he : ∀ k, e ≠ .noMoreAvailablePorts k)
    (hbind : m.bind settings transport env = { manager := m', outcome := .error e })
    (hmarks : ∀ t ip q, m'.Marked settings t ip q ↔ m.Marked settings t ip q) :
    BindCorrect settings m transport env where
  fresh ip port _ h := by
    simp [hbind] at h
  inRange port h := by
    simp [hbind] at h
  returned port h := by
    simp [hbind] at h
  marks port h := by
    simp [hbind] at h
  exhausted ip k _ h := by
    rw [hbind] at h
    cases h
    exact absurd rfl (he k)
  unchanged e' _ := by
    rw [hbind]
    exact hmarks

theorem bindCorrect (hfull : ¬ settings.IsFull) (hm : Sized settings m) (transport : Transport) (env : BindEnv) :
    BindCorrect settings m transport env ∧ Sized settings (m.bind settings transport env).manager := by
  cases hip : env.normalizedIp with
  | none =>
    have hbind : m.bind settings transport env = { manager := m, outcome := .error .invalidIp } := by
      simp only [bind, hip]
    exact ⟨bindCorrect_of_thrown (by simp) hbind fun _ _ _ => Iff.rfl, by rwa [hbind]⟩
  | some ip =>
    obtain ⟨hlookup, hsized, hmarks⟩ := getPorts_spec hm transport ip
    generalize hget : m.getPorts settings transport ip = g at hlookup hsized hmarks
    obtain ⟨m₁, ports⟩ := g
    cases haddr : env.addr with
    | some e =>
      have hbind : m.bind settings transport env = { manager := m₁, outcome := .error (.addrFailed e) } := by
        simp only [bind, hip, haddr, hget]
      exact ⟨bindCorrect_of_thrown (by simp) hbind hmarks, by rwa [hbind]⟩
    | none =>
      have hr := probed_probe settings transport env.os ports ports.length env.randomIdx
      have hbind : m.bind settings transport env = m₁.afterLoop settings transport ip ports
          (probe settings transport env.os ports ports.length env.randomIdx) := by
        simp only [bind, hip, haddr, hget]
      generalize probe settings transport env.os ports ports.length env.randomIdx = r at hr hbind
      have hlen := hsized transport ip ports hlookup
      have hpos : 0 < ports.length := by
        rw [hlen, Settings.numPorts_of_not_isFull hfull]
        exact Nat.succ_pos _
      refine ⟨?_, by rw [hbind]; exact sized_afterLoop hsized hlen⟩
      constructor
      case fresh =>
        intro ip' port hip' hport
        rw [hip] at hip'
        cases hip'
        rw [hbind] at hport
        exact fun hmarked => (afterLoop_ok hpos hlen hlookup hr hport).1 ((hmarks transport ip port).mpr hmarked)
      case inRange =>
        intro port hport
        rw [hbind] at hport
        obtain ⟨i, hi, rfl⟩ := mem_map.mp hport
        exact Settings.has_portAt (hlen ▸ place_lt hpos hr hi)
      case returned =>
        intro port hport
        rw [hbind] at hport ⊢
        exact (afterLoop_ok hpos hlen hlookup hr hport).2.1
      case marks =>
        intro port hport t ip' q
        rw [hbind] at hport ⊢
        rw [(afterLoop_ok hpos hlen hlookup hr hport).2.2, hmarks, hip, Option.some_inj]
      case exhausted =>
        intro ip' k hip' hk
        rw [hip] at hip'
        cases hip'
        rw [hbind] at hk ⊢
        have hout : r.outcome = .error (.noMoreAvailablePorts k) := by
          cases hout : r.outcome with
          | error e =>
            simp only [afterLoop, hout] at hk
            cases hk
            rfl
          | ok i =>
            simp only [afterLoop, hout] at hk
            cases hk
        obtain ⟨hnodup, hvisited, hrefused⟩ := afterLoop_exhausted hfull hlen hr hout
        refine ⟨hnodup, hvisited, fun q hq hfree => hrefused q hq ?_⟩
        rw [← hmarks, marked_of_lookup hlookup, not_and, Bool.not_eq_true] at hfree
        exact hfree hq
      case unchanged =>
        intro e he t ip' q
        rw [hbind] at he ⊢
        cases hout : r.outcome with
        | error e' =>
          simp only [afterLoop, hout]
          exact hmarks t ip' q
        | ok i =>
          simp only [afterLoop, hout] at he
          cases he

theorem unbindCorrect (hfull : ¬ settings.IsFull) (hm : Sized settings m) : UnbindCorrect settings m transport ip port ∧
      ∀ m', m.unbind settings transport ip port = .ok m' → Sized settings m' := by
  unfold UnbindCorrect unbind
  split
  case isTrue hout =>
    -- A port out of the range has no mark.
    refine ⟨⟨m, rfl, fun t ip' q => ?_⟩, fun m' h => by cases h; exact hm⟩
    refine (and_iff_left_of_imp ?_).symm
    rintro ⟨hhas, -⟩ ⟨-, -, rfl⟩
    rcases hout with hlt | hgt
    · exact absurd hhas.1 (UInt16.not_le.mpr hlt)
    · exact absurd hhas.2 (UInt16.not_le.mpr hgt)
  case isFalse hin =>
    rw [not_or] at hin
    have hhas : settings.Has port := ⟨UInt16.not_lt.mp hin.1, UInt16.not_lt.mp hin.2⟩
    split
    case h_1 hnone =>
      refine ⟨⟨m, rfl, fun t ip' q => ?_⟩, fun m' h => by cases h; exact hm⟩
      refine (and_iff_left_of_imp ?_).symm
      rintro ⟨-, ports, hports, -⟩ ⟨rfl, rfl, -⟩
      simp [hnone] at hports
    case h_2 ports hports =>
      have hlen := hm transport ip ports hports
      have hlt : settings.placeOf port < ports.length := hlen ▸ Settings.placeOf_lt hfull hhas
      rw [if_pos hlt]
      refine ⟨⟨_, rfl, fun t ip' q => ?_⟩, fun m' h => ?_⟩
      · have hset := marked_set (b := false) hports hhas hlt t ip' q
        refine hset.trans ?_
        split
        case isTrue heq => simp [heq]
        case isFalse hne => exact (and_iff_left hne).symm
      · cases h
        exact hm.setPorts (length_set.trans hlen)

/-! ## Runs -/

inductive Call
  | bind (transport : Transport) (env : BindEnv)
  | unbind (transport : Transport) (ip : String) (port : UInt16)

def step (settings : Settings) (m : PortManager) : Call → Except PortFault PortManager
  | .bind transport env => .ok (m.bind settings transport env).manager
  | .unbind transport ip port => m.unbind settings transport ip port

def Correct (settings : Settings) (m : PortManager) : Call → Prop
  | .bind transport env => BindCorrect settings m transport env
  | .unbind transport ip port => UnbindCorrect settings m transport ip port

theorem correct_of_sized (hfull : ¬ settings.IsFull) (hm : Sized settings m) (call : Call) :
    Correct settings m call ∧ ∀ m', step settings m call = .ok m' → Sized settings m' := by
  cases call with
  | bind transport env =>
    obtain ⟨hcorrect, hsized⟩ := bindCorrect hfull hm transport env
    exact ⟨hcorrect, fun m' h => by cases h; exact hsized⟩
  | unbind transport ip port => exact unbindCorrect hfull hm

def friendly : BindEnv where
  normalizedIp := some "127.0.0.1"
  randomIdx := 0
  os _ := {}

theorem bind_of_isFull (h : settings.IsFull) : ({} : PortManager).bind settings .udp friendly =
      { manager := ({} : PortManager).setPorts .udp "127.0.0.1" [], outcome := .error (.noMoreAvailablePorts 0) } := by
  have hnum : settings.numPorts.toNat = 0 := by
    rw [Settings.numPorts, h.1, h.2]
    rfl
  have hget : ({} : PortManager).getPorts settings .udp "127.0.0.1" =
      (({} : PortManager).setPorts .udp "127.0.0.1" [], []) := by
    simp [getPorts, ipPorts, hnum]
  simp [bind, friendly, hget, probe, afterLoop, Except.map]

theorem not_bindCorrect_of_isFull (h : settings.IsFull) : ¬ BindCorrect settings {} .udp friendly := by
  intro hcorrect
  have hbind := bind_of_isFull h
  have hvisited := (hcorrect.exhausted "127.0.0.1" 0 rfl (by rw [hbind])).2.1 settings.rtcMinPort
  rw [hbind] at hvisited
  have hmem := hvisited.mpr ⟨UInt16.le_refl _, settings.le⟩
  cases hmem

/-- **The port manager.** All calls of all runs are correct, for every range but that of all ports. -/
theorem correct_iff_not_isFull (settings : Settings) : (∀ calls, Along (step settings) (Correct settings) {} calls) ↔
      ¬ (settings.rtcMinPort = 0 ∧ settings.rtcMaxPort = 65535) := by
  constructor
  · intro hall hfull
    exact not_bindCorrect_of_isFull hfull (hall [.bind .udp friendly]).1
  · intro hfull calls
    have hany : Along (step settings) (fun _ _ => True) {} calls := along_of_forall (fun _ _ => trivial) calls _
    refine along_of_along (I := Sized settings) ?_ calls {} sized_empty hany
    exact fun m call hm _ => correct_of_sized hfull hm call

/-- The range of all ports is accepted, and every port is free. -/
theorem allPorts_never_visited : ({} : PortManager).bind ⟨0, 65535, by decide⟩ .udp friendly =
      { manager := ({} : PortManager).setPorts .udp "127.0.0.1" [], outcome := .error (.noMoreAvailablePorts 0) } ∧
    ¬ Along (step ⟨0, 65535, by decide⟩) (Correct ⟨0, 65535, by decide⟩) {} [.bind .udp friendly] :=
  ⟨bind_of_isFull ⟨rfl, rfl⟩, fun h => not_bindCorrect_of_isFull ⟨rfl, rfl⟩ h.1⟩

end PortManager

end Mediasoup.Ports
