import Jevmalloc.Ctl.Known

set_option autoImplicit false

namespace Jevmalloc

open Interaction Bytes

theorem terminated_reads (settings : List UInt8) (fits : settings.length < tcacheNcachedMaxSettingsLen)
    (clean : 0 ∉ settings) :
    (ControlCall.terminated settings).length = tcacheNcachedMaxSettingsLen ∧
      cString (ControlCall.terminated settings) = settings := by
  constructor
  · simp only [ControlCall.terminated, List.length_append, List.length_drop, List.length_replicate, List.length_singleton]
    omega
  · rw [ControlCall.terminated, List.append_assoc, List.singleton_append]
    exact c_string_terminated settings _ clean

theorem settings_fit (settings : List UInt8) :
    (ControlCall.setTcacheNcachedMax settings).Fits ↔ (settings ++ [0]).length ≤ tcacheNcachedMaxSettingsLen := by
  rw [List.length_append, List.length_singleton, Nat.succ_le_iff]
  constructor
  · intro fits
    exact fits settings rfl
  · rintro short _ ⟨⟩
    exact short

theorem settings_known (settings : List UInt8) (fits : (ControlCall.setTcacheNcachedMax settings).Fits) :
    (ControlCall.setTcacheNcachedMax settings).Known :=
  ⟨fits, "thread.tcache.ncached_max.write", by decide, rfl⟩

-- settings is a C string, so it has no NUL of its own.
theorem tcache_settings_exact {J : Type} (target : CTarget) (translation : String → Key) (initial : J → Prop)
    (jemalloc : J → MallctlEvent → J → Prop) (sizes : Sizes target jemalloc) (config : SerialConfig J ControlCall.Result)
    (reached : Reachable (controlSystem target translation initial jemalloc) config) (settings : List UInt8)
    (clean : 0 ∉ settings) :
    (∀ thread own mallctl resume,
      config.callers thread = some ⟨.setTcacheNcachedMax settings, own, .call (.control mallctl) resume⟩ →
        ∃ buffer, mallctl = ⟨(translation "thread.tcache.ncached_max.write").val, .none, some ⟨.buffer, buffer⟩⟩ ∧
          buffer.length = tcacheNcachedMaxSettingsLen ∧ cString buffer = settings) ∧
    (∀ receipt ∈ config.world.state.ledger.receipts, ∀ value, receipt.outcome = ⟨.setTcacheNcachedMax settings, value⟩ →
      (tcacheNcachedMaxSettingsLen < (settings ++ [0]).length →
        value = .error .invalidArgument ∧ Unlogged config.world.state.ledger.log receipt.ticket) ∧
      ((settings ++ [0]).length ≤ tcacheNcachedMaxSettingsLen →
        ((∃ error, value = .error error) ∧ Unlogged config.world.state.ledger.log receipt.ticket) ∨
        ∃ index, ∃ response : MallctlResponse ((ControlCall.setTcacheNcachedMax settings).mallctl target translation),
          receipt.entered ≤ index ∧ index < receipt.finished ∧
          LoggedAt config.world.state.ledger.log receipt.ticket index ⟨_, response⟩ ∧ value = response.outcome) ∧
      -- The lookup is all that can fail before jemalloc is asked.
      (Reachable (knowingSystem target translation initial jemalloc) config →
        (∀ name ∈ keyNames, (translation name).val.length = (components name).length) →
        (settings ++ [0]).length ≤ tcacheNcachedMaxSettingsLen →
          ∃ index, ∃ response : MallctlResponse ((ControlCall.setTcacheNcachedMax settings).mallctl target translation),
            LoggedAt config.world.state.ledger.log receipt.ticket index ⟨_, response⟩ ∧ value = response.outcome)) := by
  have discipline := control_discipline target translation initial jemalloc sizes
  obtain ⟨_, books, _⟩ := discipline_invariant discipline config reached
  constructor
  · intro thread own mallctl resume busy
    obtain ⟨_, rfl, fits⟩ := discipline_pending discipline config reached thread _ own _ resume busy
    obtain ⟨length, text⟩ := terminated_reads settings (fits settings rfl) clean
    exact ⟨ControlCall.terminated settings, rfl, length, text⟩
  · intro receipt member value outcome
    have accounted := (controlAsking target translation).accounted_once _ receipt (books.accounted receipt member).1
    refine ⟨?_, ?_, ?_⟩
    · intro long
      have excess : ¬(ControlCall.setTcacheNcachedMax settings).Fits :=
        fun fits => absurd ((settings_fit settings).mp fits) (Nat.not_le.mpr long)
      obtain ⟨ticket, entered, finished, _⟩ := receipt
      subst outcome
      rcases accounted with ⟨⟨error, same, refused⟩, unlogged⟩ | ⟨fits, _⟩
      · exact ⟨by rw [refused excess] at same; exact same, unlogged⟩
      · exact absurd fits excess
    · intro short
      obtain ⟨ticket, entered, finished, _⟩ := receipt
      subst outcome
      rcases accounted with ⟨⟨error, same, _⟩, unlogged⟩ | ⟨_, settled⟩
      · exact .inl ⟨⟨error, same⟩, unlogged⟩
      · exact .inr settled
    · intro knowing knows short
      have answered := known_answered target translation initial jemalloc sizes knows config knowing receipt member
      obtain ⟨ticket, entered, finished, _⟩ := receipt
      subst outcome
      obtain ⟨index, response, _, _, logged, same⟩ := answered (settings_known settings ((settings_fit settings).mpr short))
      exact ⟨index, response, logged, same⟩

theorem longest_settings : ∃ long : List UInt8, long.length = tcacheNcachedMaxSettingsLen ∧ 0 ∉ long := by
  refine ⟨List.replicate tcacheNcachedMaxSettingsLen 97, List.length_replicate, ?_⟩
  intro member
  exact absurd (List.eq_of_mem_replicate member) (by decide)

theorem tcache_settings_exact_long :
    ∃ config long served refused, Reachable (controlSystem linuxTarget spelledKey (fun _ => True) (sizedAnswers linuxTarget)) config ∧
      long.length = tcacheNcachedMaxSettingsLen ∧ config.world.state.ledger.receipts.map Receipt.outcome =
        [⟨.setTcacheNcachedMax long, refused⟩, ⟨.setTcacheNcachedMax (utf8 "8-64:20"), served⟩] ∧
      refused = .error .invalidArgument ∧ config.world.state.ledger.log.length = 1 ∧
      ∃ response : MallctlResponse ((ControlCall.setTcacheNcachedMax (utf8 "8-64:20")).mallctl linuxTarget spelledKey),
        served = response.outcome ∧ ∃ ticket index, LoggedAt config.world.state.ledger.log ticket index ⟨_, response⟩ := by
  obtain ⟨long, length, clean⟩ := longest_settings
  have start : Reachable (knowingSystem linuxTarget spelledKey (fun _ => True) (sizedAnswers linuxTarget))
      ⟨⟨Weak.empty, ⟨(), Ledger.empty⟩⟩, fun _ => none⟩ := .start _ ⟨rfl, trivial, rfl⟩
  have room : (utf8 "8-64:20" ++ [0]).length ≤ tcacheNcachedMaxSettingsLen := Nat.le_of_ble_eq_true rfl
  have excess : tcacheNcachedMaxSettingsLen < (long ++ [0]).length := by
    rw [List.length_append, length, List.length_singleton]
    exact Nat.lt_succ_self _
  obtain ⟨_, first⟩ := call_served linuxTarget spelledKey _ _ (sized_answers linuxTarget) (.setTcacheNcachedMax (utf8 "8-64:20"))
    "thread.tcache.ncached_max.write" rfl ((settings_fit _).mpr room)
    (spelled_translatable _ (by decide) (by decide) (by decide) (by decide)) _ _ () _ 0 ⟨0, 0, ()⟩ (fun _ => rfl) start
  have second := (controlAsking linuxTarget spelledKey).asking_refused _ _ spelledKey (.setTcacheNcachedMax long)
    (.error .invalidArgument) (settings_refused linuxTarget long (Nat.le_of_eq length.symm)) _ _ _ _ 1 rfl first
  have reached := reachable_restrict _ _ _ second
  have refused := (tcache_settings_exact linuxTarget spelledKey _ _ (sized_answers linuxTarget) _ reached long clean).2 _
    (.head _) (.error .invalidArgument) rfl
  have served := (tcache_settings_exact linuxTarget spelledKey _ _ (sized_answers linuxTarget) _ reached (utf8 "8-64:20")
    (by decide)).2 _ (.tail _ (.head _)) (.ok ()) rfl
  obtain ⟨index, response, logged, same⟩ := served.2.2 second spelled_knows room
  exact ⟨_, long, .ok (), _, reached, length, rfl, (refused.1 excess).1, rfl, response, same, _, index, logged⟩

end Jevmalloc
