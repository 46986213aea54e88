import AirVpn.Service.Coherence

/-! # Which handler has which effect

A frame lemma for the effects: a failure, a stale mark, a spawn and so on come
from certain events only, and the fields that a step leaves alone.
-/

namespace AirVpn.Service

open Daemon

def runEffect : Effect → Bool
  | .supersede | .armCalled _ | .armed | .spawned _ => true
  | _ => false

/-- The effects that an event can have. -/
def mayEmit : Event → Effect → Bool
  | .connect _ _, e | .connectInteractive _ _, e | .newSecrets _ _, e =>
      match e with
      | .reply _ | .fetchStarted _ | .signalled _ _ _ => true
      | e => runEffect e
  | .fetchDone _ _ _, e =>
      match e with
      | .stored _ _ _ | .failure _ => true
      | e => runEffect e
  | .disconnect _, e =>
      match e with
      | .disconnected | .markedStale _ | .signalled _ _ _ => true
      | _ => false
  | .childWatch _ _ _, e =>
      match e with
      | .failure _ | .disconnected | .markedStale _ | .signalled _ _ _ => true
      | _ => false
  | .connectTimeout _ _, e =>
      match e with
      | .failure _ | .markedStale _ | .signalled _ _ _ => true
      | _ => false
  | .killTimeout _, .signalled _ _ _ => true
  | .dispose, .signalled _ _ _ => true
  | _, _ => false

variable {cfg : Config} {env : Env} {s s' : Daemon} {e : Effect}

theorem mem_cleanedEffects (h : e ∈ cleanedEffects s) :
    ∃ pid signal target, e = .signalled pid signal target := by
  unfold cleanedEffects at h
  split at h
  · cases h
  · obtain ⟨target, rfl⟩ := mem_killEffects h
    exact ⟨_, _, _, rfl⟩

theorem ArmOutcome.effects {table : Option (List Char)} {active : Bool} {effects : List Effect}
    (h : ArmOutcome cfg env s table active effects) (he : e ∈ effects) : runEffect e = true := by
  cases h with
  | off _ => cases he
  | on _ _ _ =>
      simp only [List.mem_cons, List.not_mem_nil, or_false] at he
      rcases he with rfl | rfl <;> rfl

theorem RunOutcome.effects {r : Except GError Unit} (h : RunOutcome cfg env s s' r)
    (he : e ∈ s'.effects) : e ∈ s.effects ∨ runEffect e = true := by
  cases h with
  | noBinary _ => exact .inl he
  | notArmed _ _ =>
      simp only [List.mem_cons] at he
      rcases he with rfl | rfl | he
      · exact .inr rfl
      · exact .inr rfl
      · exact .inl he
  | notSpawned _ ha =>
      simp only [List.mem_append, List.mem_cons] at he
      rcases he with he | rfl | he
      · exact .inr (ha.effects he)
      · exact .inr rfl
      · exact .inl he
  | spawned _ ha _ =>
      simp only [List.mem_append, List.mem_cons] at he
      rcases he with rfl | he | rfl | he
      · exact .inr rfl
      · exact .inr (ha.effects he)
      · exact .inr rfl
      · exact .inl he

theorem RunOutcome.keeps {r : Except GError Unit} (h : RunOutcome cfg env s s' r)
    (he : e ∈ s.effects) : e ∈ s'.effects := by
  cases h <;> simp [he]

theorem mem_begun_effects {c : NMConnection} (he : e ∈ (begun cfg c (quiet s)).effects) :
    ∃ pid signal target, e = .signalled pid signal target := by
  rw [begun_eq] at he
  exact mem_cleanedEffects (by simpa [quiet] using he)

theorem mem_disconnect_effects (he : e ∈ (nmVpnServicePluginDisconnect cfg env s).effects) :
    e ∈ s.effects ∨ svcActive s = true ∧
      (e = .disconnected ∨ (∃ pid signal target, e = .signalled pid signal target) ∨
        ∃ u, disconnectMark s.priv = some u ∧ e = .markedStale u) := by
  cases hs : svcActive s with
  | false =>
      rw [disconnect_inactive hs] at he
      exact .inl he
  | true =>
      rw [disconnect_active hs] at he
      simp only [List.mem_cons, List.mem_append, mem_markEffects] at he
      rcases he with rfl | he | he | he
      · exact .inr ⟨rfl, .inl rfl⟩
      · exact .inr ⟨rfl, .inr (.inl (mem_cleanedEffects he))⟩
      · exact .inr ⟨rfl, .inr (.inr he)⟩
      · exact .inl he

theorem RequestOutcome.effects {c : NMConnection} {r : Except GError Unit}
    (h : RequestOutcome cfg env c (quiet s) s' r) (he : e ∈ s'.effects) :
    runEffect e = true ∨ (∃ pid signal target, e = .signalled pid signal target) ∨
      ∃ a, e = .fetchStarted a := by
  cases h with
  | rejected _ => cases he
  | stopped _ _ _ => exact .inr (.inl (mem_begun_effects he))
  | fetching _ _ _ =>
      rcases List.mem_cons.mp he with rfl | he
      · exact .inr (.inr ⟨_, rfl⟩)
      · exact .inr (.inl (mem_begun_effects he))
  | ran _ _ hr =>
      rcases hr.effects he with he | he
      · exact .inr (.inl (mem_begun_effects he))
      · exact .inl he

theorem FetchOutcome.effects {f : Fetch} {result : FetchResult} {fs : List Fetch}
    (h : FetchOutcome cfg env f result { quiet s with fetches := fs } s') (he : e ∈ s'.effects) :
    runEffect e = true ∨ (∃ u p c, e = .stored u p c) ∨ ∃ reason, e = .failure reason := by
  cases h with
  | cancelled _ => cases he
  | abandoned _ _ => cases he
  | notStored _ _ _ _ =>
      simp only [List.mem_cons] at he
      rcases he with rfl | rfl | he
      · exact .inr (.inr ⟨_, rfl⟩)
      · exact .inr (.inl ⟨_, _, _, rfl⟩)
      · cases he
  | stored _ _ _ _ _ hr =>
      rcases mem_afterRun.mp he with he | ⟨_, _, rfl⟩
      · rcases hr.effects he with he | he
        · rcases List.mem_cons.mp he with rfl | he
          · exact .inr (.inl ⟨_, _, _, rfl⟩)
          · cases he
        · exact .inl he
      · exact .inr (.inr ⟨_, rfl⟩)
  | noProfile _ _ _ =>
      rcases List.mem_cons.mp he with rfl | he
      · exact .inr (.inr ⟨_, rfl⟩)
      · cases he
  | fallback _ _ _ _ hr =>
      rcases mem_afterRun.mp he with he | ⟨_, _, rfl⟩
      · rcases hr.effects he with he | he
        · cases he
        · exact .inl he
      · exact .inr (.inr ⟨_, rfl⟩)

theorem mayEmit_request {ev : Event} {c : NMConnection}
    (hev : ev.request = some (c, env))
    (he : runEffect e = true ∨ (∃ pid signal target, e = .signalled pid signal target) ∨
      (∃ a, e = .fetchStarted a) ∨ ∃ r, e = .reply r) : mayEmit ev e = true := by
  cases ev <;> cases hev <;> rcases he with he | ⟨_, _, _, rfl⟩ | ⟨_, rfl⟩ | ⟨_, rfl⟩ <;>
    first | rfl | (cases e <;> first | rfl | cases he)

theorem step_effects {ev : Event} (hs : step cfg s ev = some s') (he : e ∈ s'.effects) :
    mayEmit ev e = true := by
  cases step_cases hs with
  | request _ hev _ ho _ =>
      rcases List.mem_cons.mp he with rfl | he
      · exact mayEmit_request hev (.inr (.inr (.inr ⟨_, rfl⟩)))
      · rcases ho.effects he with h | h | h
        · exact mayEmit_request hev (.inl h)
        · exact mayEmit_request hev (.inr (.inl h))
        · exact mayEmit_request hev (.inr (.inr (.inl h)))
  | disconnect env =>
      rcases mem_disconnect_effects he with he | ⟨_, rfl | ⟨_, _, _, rfl⟩ | ⟨_, _, rfl⟩⟩
      · cases he
      all_goals rfl
  | stateChange state =>
      unfold nmVpnServicePluginSetState at he
      split at he
      · cases he
      · cases state <;> simp only [stateChangedCb, clearConnectTimer_eq] at he <;> cases he
  | fetchDone result _ _ _ ho =>
      rcases ho.effects he with h | ⟨_, _, _, rfl⟩ | ⟨_, rfl⟩
      · cases e <;> first | rfl | cases h
      all_goals rfl
  | childExits _ _ => cases he
  | childReaped _ _ => cases he
  | @childWatch p status env _ _ =>
      rw [watch_eq] at he
      split at he
      · split at he
        · rcases List.mem_cons.mp he with rfl | he
          · rfl
          · cases he
        · simp only [List.mem_cons, List.mem_append, mem_markEffects] at he
          rcases he with rfl | ⟨_, _, rfl⟩ | he
          · rfl
          · rfl
          · cases he
      · rcases mem_disconnect_effects he with he | ⟨_, rfl | ⟨_, _, _, rfl⟩ | ⟨_, _, rfl⟩⟩
        · cases he
        all_goals rfl
  | connectTimeout env _ =>
      rw [timeout_eq] at he
      split at he
      · cases he
      · simp only [List.mem_cons, List.mem_append, mem_markEffects] at he
        rcases he with rfl | ⟨_, _, rfl⟩ | he | he
        · rfl
        · rfl
        · obtain ⟨_, _, _, rfl⟩ := mem_cleanedEffects he
          rfl
        · cases he
  | killTimeout _ =>
      rw [kill_eq] at he
      rcases List.mem_append.mp he with he | he
      · obtain ⟨_, rfl⟩ := mem_killEffects he
        rfl
      · cases he
  | otherStarts _ => cases he
  | otherEnds _ => cases he
  | dispose =>
      rw [cleanupPlugin_eq] at he
      rcases List.mem_append.mp he with he | he
      · obtain ⟨_, _, _, rfl⟩ := mem_cleanedEffects he
        rfl
      · cases he

end AirVpn.Service
