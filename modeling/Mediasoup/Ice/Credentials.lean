import Mediasoup.Ice.Requests
import Mediasoup.Lib.Ledger
import Mediasoup.Stun.Authentication

/-!
# The credentials over whole runs

`Pairs` is what the credentials of the server are for: the pair that holds, and the one before it until a request comes with the
pair that holds. The server keeps to it in every run (`Registered`): the username fragments registered are those of the two pairs,
and a success response is authenticated with the password of the pair that verified the request (`credentials_of_runs`).
-/

namespace Mediasoup.Ice

open Lib Utils Stun List StunPacket Ledger

structure Credentials where
  usernameFragment : List UInt8
  password : List UInt8
  deriving DecidableEq

def Credentials.Nonempty (c : Credentials) : Prop := c.usernameFragment ≠ [] ∧ c.password ≠ []

def verifies (hmac : HmacSha1) (packet : StunPacket) (c : Credentials) : Bool :=
  (packet.checkAuthentication hmac c.usernameFragment c.password).1 = .ok

def isComplete (packet : StunPacket) : Bool :=
  packet.method = binding ∧ packet.hasFingerprint ∧ packet.klass = .request ∧ packet.messageIntegrity ≠ none ∧
    packet.priority ≠ 0 ∧ packet.username ≠ []

/-! ## The two pairs -/

structure Pairs where
  current : Credentials
  old : Option Credentials
  deriving DecidableEq

namespace Pairs

variable (hmac : HmacSha1)

def fragments (p : Pairs) : List (List UInt8) := p.current.usernameFragment :: (p.old.map (·.usernameFragment)).toList

def verifiedBy (p : Pairs) (packet : StunPacket) : Option Credentials :=
  if verifies hmac packet p.current then some p.current else p.old.filter (verifies hmac packet)

/-- The old pair goes with the first request that is verified by the current one. -/
def receive (p : Pairs) (packet : StunPacket) : Pairs :=
  if isComplete packet ∧ verifies hmac packet p.current then { p with old := none } else p

def step (p : Pairs) : Agent.Call → Pairs
  | .stunData data _ _ =>
    match parse data with
    | .error _ => p
    | .ok packet => p.receive hmac packet
  | .restartIce usernameFragment password => ⟨⟨usernameFragment, password⟩, some p.current⟩
  | .removeTuple _ | .forceSelectedTuple _ => p

end Pairs

def Notification.entry : Notification → Option (Entry (List UInt8))
  | .localUsernameFragmentAdded u => some (.added u)
  | .localUsernameFragmentRemoved u => some (.removed u)
  | .sendStunPacket _ => none

def fragmentEntries (ns : List Notification) : List (Entry (List UInt8)) := ns.filterMap Notification.entry

@[simp] theorem fragmentEntries_append (ns ms : List Notification) :
    fragmentEntries (ns ++ ms) = fragmentEntries ns ++ fragmentEntries ms :=
  filterMap_append

namespace Agent

variable {s s' : Agent} {p : Pairs} (hmac : HmacSha1)

def pairs (s : Agent) : Pairs :=
  ⟨⟨s.usernameFragment, s.password⟩, if s.hasOldCredentials then some ⟨s.oldUsernameFragment, s.oldPassword⟩ else none⟩

/-- The old fragment and the old password come and go together, and nothing else is empty. -/
structure Coherent (s : Agent) : Prop where
  usernameFragment : s.usernameFragment ≠ []
  password : s.password ≠ []
  old : s.oldUsernameFragment = [] ↔ s.oldPassword = []

theorem hasOldCredentials_iff (h : s.Coherent) : s.hasOldCredentials = true ↔ s.oldUsernameFragment ≠ [] := by
  simp only [hasOldCredentials, ne_eq, decide_eq_true_eq, ← h.old, and_self]

structure Answers (s s' : Agent) (packet : StunPacket) (ns : List Notification) : Prop where
  notifications : s'.notifications = s.notifications ++ ns
  fragments : fragmentEntries ns =
    if isComplete packet ∧ verifies hmac packet s.pairs.current then (s.pairs.old.map (.removed ·.usernameFragment)).toList
    else []
  verified : ∀ response, .sendStunPacket response ∈ ns → response.klass = .successResponse →
    ∃ c, s.pairs.verifiedBy hmac packet = some c ∧ response.password = c.password

theorem accept_eq_tell (s : Agent) (packet : StunPacket) (remote : Sockaddr) :
    ∃ response, (s.accept packet remote).1 = s.tell (.sendStunPacket response) ∧
      (response.klass = .successResponse → response.password = if s.oldPassword = [] then s.password else s.oldPassword) := by
  unfold accept
  split
  · exact ⟨_, rfl, nofun⟩
  · exact ⟨_, rfl, fun _ => rfl⟩

theorem applyNewCredentials_spec (h : s.Coherent) :
    s.applyNewCredentials.oldUsernameFragment = [] ∧ s.applyNewCredentials.oldPassword = [] ∧
      s.applyNewCredentials.usernameFragment = s.usernameFragment ∧ s.applyNewCredentials.password = s.password ∧
      s.applyNewCredentials.notifications =
        s.notifications ++ (s.pairs.old.map (.localUsernameFragmentRemoved ·.usernameFragment)).toList := by
  unfold applyNewCredentials pairs
  by_cases hold : s.hasOldCredentials = true
  · rw [if_pos hold, if_pos hold]
    exact ⟨rfl, rfl, rfl, rfl, rfl⟩
  rw [if_neg hold, if_neg hold]
  have hnil : s.oldUsernameFragment = [] := by
    rw [hasOldCredentials_iff h] at hold
    exact not_not.mp hold
  exact ⟨hnil, h.old.mp hnil, rfl, rfl, (append_nil _).symm⟩

structure Received (s s' : Agent) (packet : StunPacket) : Prop where
  answers : ∃ ns, s.Answers hmac s' packet ns
  pairs : s'.pairs = s.pairs.receive hmac packet
  coherent : s'.Coherent

variable {packet : StunPacket}

theorem received_of_rejected (h : s.Coherent)
    (hnot : ¬ (isComplete packet ∧ verifies hmac packet s.pairs.current)) {ns : List Notification}
    (hns : ∀ n ∈ ns, ∃ response, n = .sendStunPacket response ∧ (response.klass = .successResponse →
      ∃ c, s.pairs.verifiedBy hmac packet = some c ∧ response.password = c.password)) :
    s.Received hmac { s with notifications := s.notifications ++ ns } packet := by
  refine ⟨⟨ns, rfl, ?_, ?_⟩, ?_, ⟨h.usernameFragment, h.password, h.old⟩⟩
  · rw [if_neg hnot]
    refine filterMap_eq_nil_iff.mpr fun n hn => ?_
    obtain ⟨response, rfl, -⟩ := hns n hn
    rfl
  · intro response hresponse hclass
    obtain ⟨response', heq, hverified⟩ := hns _ hresponse
    cases heq
    exact hverified hclass
  · rw [Pairs.receive, if_neg hnot]
    rfl

theorem received_of_current (h : s.Coherent) (remote : Sockaddr) (hcomplete : isComplete packet = true)
    (hverified : verifies hmac packet s.pairs.current = true) :
    s.Received hmac (s.applyNewCredentials.accept packet remote).1 packet := by
  obtain ⟨hfragment, hpassword, hcurrent, hcurrentPassword, hnotifications⟩ := applyNewCredentials_spec h
  obtain ⟨response, hout, hresponse⟩ := accept_eq_tell s.applyNewCredentials packet remote
  have hboth : isComplete packet = true ∧ verifies hmac packet s.pairs.current = true := ⟨hcomplete, hverified⟩
  rw [hout]
  rw [if_pos hpassword, hcurrentPassword] at hresponse
  refine ⟨⟨(s.pairs.old.map (.localUsernameFragmentRemoved ·.usernameFragment)).toList ++ [.sendStunPacket response],
    ?_, ?_, ?_⟩, ?_, ?_⟩
  · show s.applyNewCredentials.notifications ++ [.sendStunPacket response] = _
    rw [hnotifications, append_assoc]
  · rw [if_pos hboth, fragmentEntries_append]
    cases s.pairs.old <;> rfl
  · intro response' hmem hclass
    have heq : response' = response := by
      cases hold : s.pairs.old <;> simpa [hold] using hmem
    subst heq
    refine ⟨s.pairs.current, ?_, hresponse hclass⟩
    rw [Pairs.verifiedBy, if_pos hverified]
  · have hnone : s.applyNewCredentials.hasOldCredentials = false := by
      simp only [hasOldCredentials, hfragment, ne_eq, not_true, false_and, decide_false]
    rw [Pairs.receive, if_pos hboth]
    show (⟨⟨s.applyNewCredentials.usernameFragment, s.applyNewCredentials.password⟩,
      if s.applyNewCredentials.hasOldCredentials then _ else none⟩ : Pairs) = _
    rw [hnone, hcurrent, hcurrentPassword]
    rfl
  · refine ⟨?_, ?_, ?_⟩
    · exact hcurrent ▸ h.usernameFragment
    · exact hcurrentPassword ▸ h.password
    · exact iff_of_true hfragment hpassword

theorem verifiedBy_old (hcurrent : ¬ verifies hmac packet s.pairs.current = true)
    (hold : s.hasOldCredentials = true)
    (hverified : verifies hmac packet ⟨s.oldUsernameFragment, s.oldPassword⟩ = true) :
    s.pairs.verifiedBy hmac packet = some ⟨s.oldUsernameFragment, s.oldPassword⟩ := by
  rw [Pairs.verifiedBy, if_neg hcurrent, pairs, if_pos hold]
  exact Option.filter_some_pos hverified

theorem received_of_old (h : s.Coherent) (remote : Sockaddr)
    (hcurrent : ¬ verifies hmac packet s.pairs.current = true) (hold : s.hasOldCredentials = true)
    (hverified : verifies hmac packet ⟨s.oldUsernameFragment, s.oldPassword⟩ = true) :
    s.Received hmac (s.accept packet remote).1 packet := by
  obtain ⟨response, hout, hresponse⟩ := accept_eq_tell s packet remote
  have hne : s.oldPassword ≠ [] := (of_decide_eq_true hold).2
  rw [hout]
  refine received_of_rejected hmac h (fun hboth => hcurrent hboth.2) fun n hn => ?_
  refine ⟨response, mem_singleton.mp hn, fun hclass => ⟨_, verifiedBy_old hmac hcurrent hold hverified, ?_⟩⟩
  rw [hresponse hclass, if_neg hne]

theorem received_of_reject (h : s.Coherent) (errorCode : UInt16)
    (hnot : ¬ (isComplete packet ∧ verifies hmac packet s.pairs.current)) :
    s.Received hmac (s.reject packet errorCode) packet :=
  received_of_rejected hmac h hnot fun _ hn => ⟨_, mem_singleton.mp hn, nofun⟩

theorem received_of_ignored (h : s.Coherent)
    (hnot : ¬ (isComplete packet ∧ verifies hmac packet s.pairs.current)) : s.Received hmac s packet := by
  have hnone : s.Received hmac { s with notifications := s.notifications ++ [] } packet :=
    received_of_rejected hmac h hnot fun n hn => absurd hn not_mem_nil
  rwa [append_nil] at hnone

/-- What `authenticate` and `receive` leave, and that `HandleTuple` is only called for a packet that a pair verifies. -/
def Processed (s : Agent) (packet : StunPacket) (r : Agent × Bool) : Prop :=
  s.Received hmac r.1 packet ∧ (r.2 = true → (s.pairs.verifiedBy hmac packet).isSome)

theorem processed_authenticate (h : s.Coherent) (hintact : packet.Intact) (remote : Sockaddr)
    (hcomplete : isComplete packet = true) : s.Processed hmac packet (s.authenticate hmac packet remote) := by
  have hsnd := checkAuthentication_snd hmac hintact s.usernameFragment s.password
  have hiff : verifies hmac packet s.pairs.current = true ↔
      (packet.checkAuthentication hmac s.usernameFragment s.password).1 = .ok := decide_eq_true_iff
  simp only [authenticate, hsnd]
  split
  · rename_i hok
    refine ⟨received_of_current hmac h remote hcomplete (hiff.mpr hok), fun _ => ?_⟩
    rw [Pairs.verifiedBy, if_pos (hiff.mpr hok)]
    rfl
  · rename_i hunauthorized
    have hcurrent : ¬ verifies hmac packet s.pairs.current = true := by
      rw [hiff, hunauthorized]
      decide
    split
    · rename_i hboth
      have hverified : verifies hmac packet ⟨s.oldUsernameFragment, s.oldPassword⟩ = true := decide_eq_true hboth.2
      refine ⟨received_of_old hmac h remote hcurrent hboth.1 hverified, fun _ => ?_⟩
      rw [verifiedBy_old hmac hcurrent hboth.1 hverified]
      rfl
    · exact ⟨received_of_reject hmac h 401 fun hboth => hcurrent hboth.2, nofun⟩
  · rename_i hbad
    have hcurrent : ¬ verifies hmac packet s.pairs.current = true := by
      rw [hiff, hbad]
      decide
    exact ⟨received_of_reject hmac h 400 fun hboth => hcurrent hboth.2, nofun⟩

theorem processed_receive (h : s.Coherent) (hintact : packet.Intact) (remote : Sockaddr) :
    s.Processed hmac packet (s.receive hmac packet remote) := by
  by_cases hcomplete : isComplete packet = true
  · obtain ⟨hmethod, hfingerprint, hclass, hintegrity, hpriority, husername⟩ := of_decide_eq_true hcomplete
    have hout : s.receive hmac packet remote = s.authenticate hmac packet remote := by
      simp only [receive, hmethod, hfingerprint, hclass, hintegrity, hpriority, husername, ne_eq, not_true, false_and,
        if_false, or_self]
    rw [hout]
    exact processed_authenticate hmac h hintact remote hcomplete
  have hnot : ¬ (isComplete packet = true ∧ verifies hmac packet s.pairs.current = true) := fun hboth => hcomplete hboth.1
  have hreject : s.Processed hmac packet (s.reject packet 400, false) := ⟨received_of_reject hmac h 400 hnot, nofun⟩
  have hignore : s.Processed hmac packet (s, false) := ⟨received_of_ignored hmac h hnot, nofun⟩
  unfold receive
  split
  · split
    · exact hreject
    · exact hignore
  rename_i hmethod
  split
  · split
    · exact hreject
    · exact hignore
  rename_i hfingerprint
  split
  · rename_i hclass
    split
    · exact hreject
    rename_i hattributes
    refine absurd (decide_eq_true ?_) hcomplete
    simp only [not_or] at hattributes
    exact ⟨not_not.mp hmethod, by simpa [hclass] using hfingerprint, hclass, hattributes.1, hattributes.2.1, hattributes.2.2⟩
  · exact hignore
  · exact hignore
  · exact hignore

/-! ## Runs -/

variable (a : Allocator)

/-- The server, and the two pairs as they follow from the calls. -/
def observe (x : Agent × Pairs) (c : Call) : Except Fault (Agent × Pairs) :=
  (x.1.step hmac a c).map fun s => (s, x.2.step hmac c)

/-- The credentials of a restart are not empty, and the username fragment is one that was never used before. -/
def FreshCredentials (x : Agent × Pairs) : Call → Prop
  | .restartIce usernameFragment password =>
    Credentials.Nonempty ⟨usernameFragment, password⟩ ∧ .added usernameFragment ∉ fragmentEntries x.1.notifications
  | _ => True

instance (c : Credentials) : Decidable c.Nonempty := inferInstanceAs (Decidable (_ ∧ _))

instance (x : Agent × Pairs) : (c : Call) → Decidable (FreshCredentials x c)
  | .restartIce usernameFragment password =>
    inferInstanceAs (Decidable (Credentials.Nonempty ⟨usernameFragment, password⟩ ∧ _ ∉ _))
  | .stunData _ _ _ | .removeTuple _ | .forceSelectedTuple _ => isTrue trivial

/-- What holds between two calls: the server has the two pairs, and the fragments registered outside are theirs. -/
structure Registered (x : Agent × Pairs) : Prop where
  coherent : x.1.Coherent
  pairs : x.1.pairs = x.2
  held : Ledger.held [] (fragmentEntries x.1.notifications) = some x.2.fragments
  once : ∀ u, (fragmentEntries x.1.notifications).count (.added u) ≤ 1

theorem registered_create {first : Credentials} (h : first.Nonempty) :
    Registered (create first.usernameFragment first.password, ⟨first, none⟩) where
  coherent := ⟨h.1, h.2, Iff.rfl⟩
  pairs := rfl
  held := rfl
  once u := by
    exact count_le_length

theorem Registered.append {p' : Pairs} (h : Registered (s, p)) (hcoherent : s'.Coherent) (hpairs : s'.pairs = p')
    {es : List (Entry (List UInt8))} (hentries : fragmentEntries s'.notifications = fragmentEntries s.notifications ++ es)
    (hheld : Ledger.held p.fragments es = some p'.fragments)
    (honce : ∀ u, .added u ∈ es → .added u ∉ fragmentEntries s.notifications ∧ es.count (.added u) ≤ 1) :
    Registered (s', p') := by
  refine ⟨hcoherent, hpairs, ?_, fun u => ?_⟩
  · rw [hentries, held_append_of_some h.held, hheld]
  · rw [hentries, count_append]
    by_cases hu : .added u ∈ es
    · obtain ⟨hnew, hle⟩ := honce u hu
      rw [count_eq_zero_of_not_mem hnew]
      omega
    · rw [count_eq_zero_of_not_mem hu]
      exact h.once u

theorem held_removed_old (p : Pairs) :
    Ledger.held p.fragments (p.old.map (.removed ·.usernameFragment)).toList = some [p.current.usernameFragment] := by
  cases hold : p.old with
  | none =>
    rw [Pairs.fragments, hold]
    rfl
  | some old =>
    have hfragments : p.fragments = [p.current.usernameFragment, old.usernameFragment] := by
      rw [Pairs.fragments, hold]
      rfl
    show Ledger.held p.fragments [.removed old.usernameFragment] = _
    rw [hfragments, held_removed_second, held_nil]

theorem registered_received (h : Registered (s, p)) (hr : s.Received hmac s' packet) :
    Registered (s', p.receive hmac packet) := by
  obtain ⟨⟨ns, hns⟩, hpairs, hcoherent⟩ := hr
  have hp : s.pairs = p := h.pairs
  have hfragments := hns.fragments
  rw [hp] at hpairs hfragments
  have hentries : fragmentEntries s'.notifications = fragmentEntries s.notifications ++ fragmentEntries ns := by
    rw [hns.notifications, fragmentEntries_append]
  refine h.append hcoherent hpairs hentries ?_ fun u hu => ?_
  · rw [hfragments, Pairs.receive]
    split
    · exact held_removed_old p
    · rfl
  · rw [hfragments] at hu
    split at hu
    · cases p.old <;> simp at hu
    · simp at hu

def dropOld (s : Agent) : List Notification :=
  if s.oldUsernameFragment ≠ [] then [.localUsernameFragmentRemoved s.oldUsernameFragment] else []

theorem fragmentEntries_dropOld (h : s.Coherent) :
    fragmentEntries s.dropOld = (s.pairs.old.map (.removed ·.usernameFragment)).toList := by
  have hiff := hasOldCredentials_iff h
  unfold dropOld pairs
  by_cases hne : s.oldUsernameFragment ≠ []
  · rw [if_pos hne, if_pos (hiff.mpr hne)]
    rfl
  · rw [if_neg hne, if_neg fun hold => hne (hiff.mp hold)]
    rfl

theorem restartIce_eq (s : Agent) (u k : List UInt8) : s.restartIce u k = { s with
      usernameFragment := u, password := k, oldUsernameFragment := s.usernameFragment, oldPassword := s.password
      remoteNomination := 0
      notifications := s.notifications ++ (s.dropOld ++ [.localUsernameFragmentAdded u]) } := by
  unfold restartIce dropOld
  by_cases hne : s.oldUsernameFragment ≠ []
  · simp only [if_pos hne, tell, append_assoc]
  · simp only [if_neg hne, tell, nil_append]

theorem destroy_notifications (s : Agent) :
    s.destroy.notifications = s.notifications ++ (.localUsernameFragmentRemoved s.usernameFragment :: s.dropOld) := by
  by_cases hnil : s.oldUsernameFragment = []
  · simp [destroy, dropOld, tell, hnil]
  · simp [destroy, dropOld, tell, hnil]

theorem registered_restartIce (h : Registered (s, p)) {u k : List UInt8}
    (hfresh : FreshCredentials (s, p) (.restartIce u k)) : Registered (s.restartIce u k, ⟨⟨u, k⟩, some p.current⟩) := by
  have hp : s.pairs = p := h.pairs
  have hcurrent : p.current = ⟨s.usernameFragment, s.password⟩ := by rw [← hp]; rfl
  have hdrop := fragmentEntries_dropOld h.coherent
  have hnonempty : decide (s.usernameFragment ≠ [] ∧ s.password ≠ []) = true :=
    decide_eq_true ⟨h.coherent.usernameFragment, h.coherent.password⟩
  have hentries : fragmentEntries (s.restartIce u k).notifications = fragmentEntries s.notifications ++
      ((p.old.map (.removed ·.usernameFragment)).toList ++ [.added u]) := by
    rw [restartIce_eq, ← hp, ← hdrop]
    rw [fragmentEntries_append, fragmentEntries_append]
    rfl
  refine h.append ?_ ?_ hentries ?_ fun u' hu' => ?_
  · rw [restartIce_eq]
    exact ⟨hfresh.1.1, hfresh.1.2, iff_of_false h.coherent.usernameFragment h.coherent.password⟩
  · rw [restartIce_eq, hcurrent]
    show (⟨⟨u, k⟩, if decide (s.usernameFragment ≠ [] ∧ s.password ≠ []) then _ else none⟩ : Pairs) = _
    rw [if_pos hnonempty]
  · rw [held_append_of_some (held_removed_old p)]
    rfl
  · have heq : u' = u := by
      cases hold : p.old <;> simpa [hold] using hu'
    subst heq
    refine ⟨hfresh.2, ?_⟩
    cases p.old <;> simp

theorem Registered.withServer (h : Registered (s, p)) (server : IceServer) : Registered ({ s with toIceServer := server }, p) :=
  ⟨⟨h.coherent.usernameFragment, h.coherent.password, h.coherent.old⟩, h.pairs, h.held, h.once⟩

theorem registered_step {c : Call} {x x' : Agent × Pairs} (h : Registered x) (hfresh : FreshCredentials x c)
    (hok : observe hmac a x c = .ok x') : Registered x' := by
  obtain ⟨s, p⟩ := x
  obtain ⟨s', hstep, rfl⟩ : ∃ s', s.step hmac a c = .ok s' ∧ x' = (s', p.step hmac c) := by
    cases hstep : s.step hmac a c with
    | error f =>
      simp only [observe, hstep] at hok
      cases hok
    | ok s' =>
      simp only [observe, hstep] at hok
      exact ⟨s', rfl, (Except.ok.inj hok).symm⟩
  cases c with
  | stunData data t remote =>
    simp only [step, onStunDataReceived] at hstep
    simp only [Pairs.step]
    cases hparse : parse data with
    | error e =>
      rw [hparse] at hstep
      obtain rfl := Except.ok.inj hstep
      exact h
    | ok packet =>
      simp only [hparse, processStunPacket] at hstep
      have hnext := registered_received hmac h (processed_receive hmac h.coherent (intact_of_parse hparse) remote).1
      split at hstep
      · obtain ⟨server, -, hstep⟩ := exists_of_bind_eq_ok hstep
        obtain rfl := Except.ok.inj hstep
        exact hnext.withServer server
      · obtain rfl := Except.ok.inj hstep
        exact hnext
  | removeTuple t =>
    obtain rfl := Except.ok.inj hstep
    exact h.withServer _
  | forceSelectedTuple t =>
    obtain ⟨server, -, hstep⟩ := exists_of_bind_eq_ok hstep
    obtain rfl := Except.ok.inj hstep
    exact h.withServer server
  | restartIce u k =>
    obtain rfl := Except.ok.inj hstep
    exact registered_restartIce h hfresh

theorem Registered.held_destroy (h : Registered (s, p)) :
    Ledger.held [] (fragmentEntries s.destroy.notifications) = some [] := by
  have hp : s.pairs = p := h.pairs
  have hcurrent : p.current.usernameFragment = s.usernameFragment := by rw [← hp]; rfl
  have hentries : fragmentEntries s.destroy.notifications = fragmentEntries s.notifications ++ p.fragments.map .removed := by
    rw [destroy_notifications, fragmentEntries_append]
    show _ ++ (.removed s.usernameFragment :: fragmentEntries s.dropOld) = _
    rw [fragmentEntries_dropOld h.coherent, hp, Pairs.fragments, hcurrent]
    cases p.old <;> rfl
  rw [hentries, held_append_of_some h.held]
  exact held_removed_all p.fragments

/-- What a packet is answered is for the pair that verifies it, and `HandleTuple` is only called for such a packet. -/
def AnswersVerified (x : Agent × Pairs) : Call → Prop
  | .stunData data _ remote => ∀ packet, parse data = .ok packet →
    ∃ ns, (x.1.receive hmac packet remote).1.notifications = x.1.notifications ++ ns ∧
      (∀ response, .sendStunPacket response ∈ ns → response.klass = .successResponse →
        ∃ c, x.2.verifiedBy hmac packet = some c ∧ response.password = c.password) ∧
      ((x.1.receive hmac packet remote).2 = true → (x.2.verifiedBy hmac packet).isSome)
  | _ => True

/-- The fragments registered outside are those of the two pairs, and if the server is destroyed now, every fragment that was
ever added has been removed as often, which is once. -/
structure Balanced (x : Agent × Pairs) : Prop where
  pairs : x.1.pairs = x.2
  held : Ledger.held [] (fragmentEntries x.1.notifications) = some x.2.fragments
  destroyed : ∀ u, .added u ∈ fragmentEntries x.1.destroy.notifications →
    (fragmentEntries x.1.destroy.notifications).count (.added u) = 1 ∧
    (fragmentEntries x.1.destroy.notifications).count (.removed u) = 1
  registeredOnly : ∀ u, .removed u ∈ fragmentEntries x.1.destroy.notifications →
    .added u ∈ fragmentEntries x.1.destroy.notifications

theorem Registered.balanced {x : Agent × Pairs} (h : Registered x) : Balanced x := by
  obtain ⟨s, p⟩ := x
  have hcount : ∀ u, (fragmentEntries s.destroy.notifications).count (.added u) =
      (fragmentEntries s.destroy.notifications).count (.removed u) := by
    intro u
    have hbalance := count_added h.held_destroy u
    simpa using hbalance
  have hadded : ∀ u, (fragmentEntries s.destroy.notifications).count (.added u) ≤ 1 := by
    intro u
    have hnone : .added u ∉ fragmentEntries (.localUsernameFragmentRemoved s.usernameFragment :: s.dropOld) := by
      show .added u ∉ .removed s.usernameFragment :: fragmentEntries s.dropOld
      rw [fragmentEntries_dropOld h.coherent]
      cases s.pairs.old <;> simp
    rw [destroy_notifications, fragmentEntries_append, count_append, count_eq_zero_of_not_mem hnone]
    exact h.once u
  refine ⟨h.pairs, h.held, fun u hu => ?_, fun u hu => ?_⟩
  · have hpos := count_pos_iff.mpr hu
    have hone : (fragmentEntries s.destroy.notifications).count (.added u) = 1 := Nat.le_antisymm (hadded u) hpos
    exact ⟨hone, (hcount u).symm.trans hone⟩
  · have hpos := count_pos_iff.mpr hu
    exact count_pos_iff.mp ((hcount u).symm ▸ hpos)

theorem answersVerified {x : Agent × Pairs} (h : Registered x) (c : Call) : AnswersVerified hmac x c := by
  cases c with
  | stunData data t remote =>
    intro packet hparse
    obtain ⟨⟨⟨ns, hns⟩, -, -⟩, hhandled⟩ := processed_receive hmac h.coherent (intact_of_parse hparse) remote
    rw [← h.pairs]
    exact ⟨ns, hns.notifications, hns.verified, hhandled⟩
  | removeTuple t => trivial
  | forceSelectedTuple t => trivial
  | restartIce u k => trivial

end Agent

/-- **Every run of a server with fresh credentials**: answers are for the pair that verifies the request; the fragments
registered outside are those of the two pairs; and the destructor leaves none of them. -/
theorem credentials_of_runs (hmac : HmacSha1) (a : Allocator) (first : Credentials) (hfirst : first.Nonempty)
    (calls : List Agent.Call)
    (hfresh : Along (Agent.observe hmac a) Agent.FreshCredentials
      (Agent.create first.usernameFragment first.password, ⟨first, none⟩) calls) :
    Agent.Balanced (Agent.create first.usernameFragment first.password, ⟨first, none⟩) ∧
      Along (Agent.observe hmac a) (Agent.AnswersVerified hmac)
        (Agent.create first.usernameFragment first.password, ⟨first, none⟩) calls ∧
      EachStep (Agent.observe hmac a) (fun _ _ x => Agent.Balanced x)
        (Agent.create first.usernameFragment first.password, ⟨first, none⟩) calls := by
  have hstart := Agent.registered_create hfirst
  refine ⟨hstart.balanced, ?_, ?_⟩
  · refine along_of_along (I := Agent.Registered) ?_ calls _ hstart hfresh
    exact fun x c hI hC => ⟨Agent.answersVerified hmac hI c, fun x' hok => Agent.registered_step hmac a hI hC hok⟩
  · refine eachStep_of_along (I := Agent.Registered) ?_ calls _ hstart hfresh
    intro x c x' hI hC hok
    have hnext := Agent.registered_step hmac a hI hC hok
    exact ⟨hnext.balanced, hnext⟩

def requestFor (u k : UInt8) : List UInt8 :=
  let packet : StunPacket := { klass := .request, method := binding, transactionId := List.replicate 12 7
                               username := [u, colon, 0x78], password := [k], priority := 1 }
  match packet.serialize ⟨fun key _ => List.replicate 20 (key.headD 0), fun _ _ => length_replicate⟩
    (List.replicate 72 0xFF) with
  | .ok p => p.message
  | .error _ => []

def rotation : List Agent.Call :=
  let tuple : TransportTuple := { hash := 1, protocol := .udp }
  [.restartIce [0x76] [2], .stunData (requestFor 0x75 1) tuple .other, .restartIce [0x77] [3],
    .stunData (requestFor 0x77 3) tuple .other, .stunData (requestFor 0x76 2) tuple .other]

theorem credentials_of_rotation :
    let hmac : HmacSha1 := ⟨fun key _ => List.replicate 20 (key.headD 0), fun _ _ => length_replicate⟩
    let start : Agent × Pairs := (Agent.create [0x75] [1], ⟨⟨[0x75], [1]⟩, none⟩)
    Along (Agent.observe hmac .bump) (Agent.AnswersVerified hmac) start rotation ∧
      EachStep (Agent.observe hmac .bump) (fun _ _ x => Agent.Balanced x) start rotation ∧
      (rotation.foldlM (Agent.observe hmac .bump) start).map (fun x => x.1.notifications.map fun
        | .sendStunPacket response => (response.klass, response.errorCode)
        | .localUsernameFragmentAdded _ | .localUsernameFragmentRemoved _ => (.indication, 0)) =
        .ok [(.indication, 0), (.indication, 0), (.successResponse, 0), (.indication, 0), (.indication, 0),
          (.indication, 0), (.successResponse, 0), (.errorResponse, 401)] := by
  intro hmac start
  have hruns := credentials_of_runs hmac .bump ⟨[0x75], [1]⟩ (by decide) rotation (by decide +kernel)
  exact ⟨hruns.2.1, hruns.2.2, by decide +kernel⟩

end Mediasoup.Ice
