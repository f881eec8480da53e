import TokenGate.Proofs.Cache.Pace
import TokenGate.Proofs.Cache.Requests
import TokenGate.Proofs.Gate.Deeds

/-!
# The pace of calls one after the other

Whatever calls come, each refresh of an endpoint waits for the floor, and all requests belong to
refreshes or discoveries.
-/

namespace TokenGate.Gate

variable {g g' : Gate} {e : Entry} {uri : String}

/-! ## The floor -/

theorem Deed.paced (deed : Deed g g') (h : g.Paced uri) : g'.Paced uri := by
  cases deed with
  | waits s => exact h.mono rfl rfl (Nat.le_add_right ..)
  | scripts => exact h.mono rfl rfl (Nat.le_refl _)
  | records => exact h.mono rfl (refreshes_record_validated ..) (Nat.le_refl _)
  | discovers timeout url => exact h.mono rfl rfl (Http.Exchange.le_doneAt_run ..)
  | @refreshes e found may =>
    have forward := Fetched.le_ended_run g.settings g.epoch e.uri g.network g.now
    let run := Fetched.run g.settings g.epoch e.uri g.network g.now
    have moved : Paced { g with now := run.ended, network := run.state } uri :=
      h.mono rfl rfl forward
    by_cases mine : e.uri = uri
    · subst mine
      exact moved.publish found rfl (h.rested found may (Nat.le_refl _)) forward rfl
    · exact moved.publish_of_ne (Ne.symm mine) mine

theorem floor_publishRefresh (found : g.lookup? e.uri = some e) (r : Refresh) (uri : String) :
    ((g.publishRefresh e r).2.lookup? uri).map (·.floor) = (g.lookup? uri).map (·.floor) := by
  by_cases mine : uri = e.uri
  · subst mine
    rw [lookup?_publishRefresh found, found, Option.map_some, Option.map_some, Entry.floor_publish]
  · rw [lookup?_publishRefresh_of_ne mine]

theorem Deed.floor (deed : Deed g g') (uri : String) :
    (g'.lookup? uri).map (·.floor) = (g.lookup? uri).map (·.floor) := by
  cases deed with
  | @refreshes e found _ =>
    let run := Fetched.run g.settings g.epoch e.uri g.network g.now
    exact floor_publishRefresh (g := { g with now := run.ended, network := run.state }) found _ uri
  | _ => rfl

theorem Deeds.floor (deeds : Deeds g g') (uri : String) :
    (g'.lookup? uri).map (·.floor) = (g.lookup? uri).map (·.floor) := by
  induction deeds with
  | refl => rfl
  | tail _ deed ih => rw [deed.floor, ih]

/-! ## The requests -/

/-- Since the log was `log`, all requests have been those of trips, and the trips for an endpoint are
its refreshes. -/
structure Travelled (log : List String) (g : Gate) (trips : List Trip) : Prop where
  log : g.network.log = log ++ trips.flatMap (Trip.requests g.settings g.epoch)
  starts : ∀ uri, trips.filterMap (Trip.start? uri) = (g.refreshes uri).map (·.started)

theorem Travelled.of_eq {log : List String} {trips : List Trip} (h : Travelled log g trips)
    (settings : g'.settings = g.settings) (epoch : g'.epoch = g.epoch)
    (network : g'.network.log = g.network.log)
    (refreshes : ∀ uri, g'.refreshes uri = g.refreshes uri) : Travelled log g' trips := by
  refine ⟨?_, fun uri => ?_⟩
  · rw [network, settings, epoch]; exact h.log
  · rw [refreshes]; exact h.starts uri

theorem Travelled.register {log : List String} {trips : List Trip} (h : Travelled log g trips)
    (uri : String) (floor : Span) : Travelled log (g.register uri floor) trips := by
  refine h.of_eq (settings_register ..) (epoch_register ..) ?_ fun _ => refreshes_register ..
  unfold Gate.register
  split <;> rfl

end TokenGate.Gate
