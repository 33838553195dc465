import MediaSync.Appliance.UpdaterRuns

/-!
# Rules for the requests of an updater

The rules of a contract, stated for what an updater does all the time: asking
the engine, acting on it, writing the journal, and looking at the containers
of its operation one after the other. What was true of a container when it was
looked at is handed on if the surroundings cannot change it.
-/
namespace MediaSync.UpdaterGuards
open FaultPrograms GuardedPrograms PythonText UpdateHandoff UpdateJournal UpdaterWorld
open UpdaterObservation UpdateSnapshot UpdaterForward UpdaterCoordinator UpdaterEffects UpdaterRuns

section Guards
variable [Tools] {C : Contract World} {A B : World → Prop}

theorem query_guarded {α : Type} {view : World → Except UpdaterError α} {R : α → World → Prop}
    (hA : Held Move C A) (h : ∀ w a, A w → view w = .ok a → R a w) :
    Guarded Move C A (query view) R := Guarded.look hA h

theorem request_guarded {accepted : World → Except UpdaterError Unit} {next : World → World}
    {R : Unit → World → Prop} (hA : Held Move C A)
    (hnext : ∀ w, A w → accepted w = .ok () → C.always (next w) ∧ C.step w (next w))
    (h : ∀ w, A w → accepted w = .ok () → R () (next w)) :
    Guarded Move C A (request accepted next) R := by
  refine Guarded.effect hA (fun w hw => ?_) fun w _ hw hok => ?_
  · cases haccepted : accepted w with
    | error e => exact ⟨hA.safe w hw, C.refl w (hA.safe w hw)⟩
    | ok _ => exact hnext w hw haccepted
  · cases haccepted : accepted w with
    | error e =>
      rw [haccepted] at hok
      cases hok
    | ok _ => exact h w hw haccepted

theorem journalCall_guarded {α : Type} {call : ℤ → Journal → Answer α} {R : α → World → Prop}
    (hA : Held Move C A)
    (hnext : ∀ w, A w → C.always { w with journal := (call w.now w.journal).2 } ∧
      C.step w { w with journal := (call w.now w.journal).2 })
    (h : ∀ w a, A w → (call w.now w.journal).1 = .ok a →
      R a { w with journal := (call w.now w.journal).2 }) :
    Guarded Move C A (journalCall call) R :=
  Guarded.effect hA hnext fun w a hw hok => h w a hw (mapError_ok hok)

theorem skipIf_guarded {condition : Bool} {p : Updater Unit} {R : Unit → World → Prop}
    (hskip : condition = true → ∀ w, A w → R () w)
    (hp : condition = false → Guarded Move C A p R) : Guarded Move C A (skipIf condition p) R := by
  unfold skipIf
  split
  · exact Guarded.pure (hskip ‹_›)
  · exact hp (Bool.eq_false_iff.mpr ‹_›)

theorem require_guarded {condition : Bool} {text : String} {R : Unit → World → Prop}
    (hA : ∀ w, A w → C.always w) (h : condition = true → ∀ w, A w → R () w) :
    Guarded Move C A (require condition text) R :=
  skipIf_guarded h fun _ => Guarded.throw hA

theorem inspectContainer_guarded {id : String} {R : Container → World → Prop}
    (hA : Held Move C A)
    (h : ∀ w c, A w → w.container id = some c → R c w) :
    Guarded Move C A (inspectContainer id) R := by
  refine query_guarded hA fun w c hw hok => ?_
  split at hok
  · rename_i c' _ hfound
    cases hok
    exact h w c hw hfound
  · cases hok
  · cases hok

/-- A program that only looks. -/
theorem looks_guarded {α : Type} {p : Updater α} (hA : Held Move C A)
    (hp : Within Eq p) : Guarded Move C A p fun _ => A :=
  Guarded.within hA hp fun w w' hw h => by
    subst h
    exact ⟨hw, C.refl _ (hA.safe _ hw)⟩

theorem readHandoff_guarded {operationId : String} (hA : Held Move C A) :
    Guarded Move C A (readHandoff operationId) fun document w =>
      A w ∧ document = w.document ∧ document.operationId = operationId := by
  refine Guarded.look hA fun w document hw hok => ?_
  split at hok
  · cases hok
  · split at hok
    · cases hok
    · split at hok
      · cases hok
      · rename_i hsame
        split at hok
        · cases hok
        · cases hok
          exact ⟨hw, rfl, Classical.byContradiction hsame⟩

/-- What was read is what is stored. -/
def Stored (journal : Journal) (operationId : String) : UpdaterResult ⊕ UpdaterResultV2 → Prop
  | .inl r => journal operationId = some (.v1 r)
  | .inr r => journal operationId = some (.v2 r) ∧ r.operationId = operationId

theorem readResult_guarded {operationId : String} (hA : Held Move C A) :
    Guarded Move C A (readResult operationId) fun result w =>
      A w ∧ Stored w.journal operationId result := by
  refine Guarded.look hA fun w result hw hok => ⟨hw, ?_⟩
  cases result with
  | inl r => exact read_ok (mapError_ok hok)
  | inr r => exact read_ok (mapError_ok hok)

theorem disarm_guarded {id : String} (hA : Held Move C A)
    (hnext : ∀ w, A w → A (w.setPolicy id noRestart) ∧ C.step w (w.setPolicy id noRestart)) :
    Guarded Move C A (disarm id) fun _ => C.always := by
  have hnow : Guarded Move C A (disarmNow id) fun _ => A := by
    refine Guarded.bind (S := fun _ => A) ?_ fun _ => ?_
    · exact request_guarded hA (fun w hw _ => ⟨hA.safe _ (hnext w hw).1, (hnext w hw).2⟩)
        fun w hw _ => (hnext w hw).1
    · exact (inspectContainer_guarded (R := fun _ => A) hA fun w c hw _ => hw).bind fun c =>
        Guarded.pure fun w hw => hw
  refine (hnow.attempt (T := fun _ => C.always) (fun _ w hw => hA.safe w hw) fun _ _ h => h).bind
    fun result => ?_
  cases result with
  | ok answer => exact Guarded.pure fun w hw => hw
  | error e => exact Guarded.pure fun w hw => hw

theorem finish_guarded {id : String} (hA : Held Move C A)
    (hnext : ∀ w, A w → A (w.setPolicy id noRestart) ∧ C.step w (w.setPolicy id noRestart)) :
    Guarded Move C A (finish id) fun _ => C.always :=
  (disarm_guarded hA hnext).bind fun _ => Guarded.pure fun _ hw => hw

theorem manual_guarded {id : String} (hA : Held Move C A)
    (hnext : ∀ w, A w → A (w.setPolicy id noRestart) ∧ C.step w (w.setPolicy id noRestart)) :
    Guarded Move C A (manual id) fun _ => C.always :=
  (disarm_guarded hA hnext).bind fun _ => Guarded.pure fun _ hw => hw

/-! ## Observations -/

section Observing
variable {K : Container → World → Prop}

theorem inspectAll_guarded (ids : List String)
    (hmoves : ∀ (m : Move) c w, A w → K c w → K c (w.move m))
    (hfound : ∀ w c, A w → c ∈ w.containers → K c w) (hB : Held Move C B)
    (hBA : ∀ w, B w → A w) :
    Guarded Move C B (inspectAll ids) fun cs w =>
      B w ∧ (∀ c ∈ cs, K c w) ∧ cs.map Container.id = ids := by
  induction ids generalizing B with
  | nil => exact Guarded.pure fun w hw => ⟨hw, by simp, rfl⟩
  | cons id ids ih =>
    refine Guarded.bind (S := fun c w => B w ∧ K c w ∧ c.id = id)
      (Guarded.look hB fun w c hw hok => ?_) fun c => ?_
    · split at hok
      · cases hok
      · rename_i c' hc
        cases hok
        obtain ⟨hmem, hid⟩ := container_mem hc
        exact ⟨hw, hfound w c (hBA w hw) hmem, hid⟩
    have hheld : Held Move C fun w => B w ∧ K c w ∧ c.id = id :=
      hB.and fun m w hw h => ⟨hmoves m c w (hBA w hw) h.1, h.2⟩
    refine (ih hheld fun w hw => hBA w hw.1).bind fun cs => Guarded.pure fun w hw => ?_
    obtain ⟨⟨hbase, hc, hid⟩, hrest, hids⟩ := hw
    refine ⟨hbase, fun c' hc' => ?_, by rw [List.map_cons, hid, hids]⟩
    rcases List.mem_cons.mp hc' with rfl | hc'
    · exact hc
    · exact hrest c' hc'

variable {socketPath hostname : String} {document : HandoffDocument} {result : ResultFields}
  {marker : Option PendingUpdateMarker}

/-- The three observations of a list of containers. -/
def observation (socketPath hostname : String) (document : HandoffDocument)
    (result : ResultFields) (marker : Option PendingUpdateMarker) (cs : List Container) :
    DockerRecoveryObservation :=
  ⟨observeSource cs document result, observeCandidate cs document result marker,
    observeCoordinator cs document result hostname socketPath⟩

/-- What is observed are the containers that were relevant when the list was
read, each as it was found afterwards. -/
theorem observe_guarded {L : List String → World → Prop}
    (hmoves : ∀ (m : Move) c w, A w → K c w → K c (w.move m))
    (hfound : ∀ w c, A w → c ∈ w.containers → K c w) (hA : Held Move C A)
    (hL : ∀ ids, Held Move C (L ids)) (hLA : ∀ ids w, L ids w → A w)
    (hlist : ∀ w, A w → L (relevantIds w.containers result) w) :
    Guarded Move C A (observe socketPath document result marker hostname) fun o w =>
      document.operationId = result.operationId ∧
      ∃ cs, o = observation socketPath hostname document result marker cs ∧
        (∀ c ∈ cs, K c w) ∧ L (cs.map Container.id) w := by
  unfold observe
  split
  · exact Guarded.throw hA.safe
  · rename_i hsame
    have hlook : Guarded Move C A
        (Prog.look (.observation "无法读取 Docker 容器列表") fun w =>
          (Except.ok w.containers : Except UpdaterError (List Container)))
        fun summaries w => L (relevantIds summaries result) w := by
      refine Guarded.look hA fun w summaries hw hok => ?_
      cases hok
      exact hlist w hw
    refine hlook.bind fun summaries => ?_
    refine (inspectAll_guarded _ hmoves hfound (hL _) (hLA _)).bind fun cs =>
      Guarded.pure fun w hw => ?_
    obtain ⟨hbase, hcs, hids⟩ := hw
    exact ⟨Classical.byContradiction hsame, cs, rfl, hcs, hids ▸ hbase⟩

/-- A candidate that was observed carries the labels of a candidate. -/
theorem observeCandidate_labelled {cs : List Container} {id : String}
    (h : (observeCandidate cs document result marker).containerId = some id) :
    ∃ c ∈ cs, c.id = id ∧ c.isCandidate result.operationId = true := by
  unfold observeCandidate at h
  dsimp only at h
  split at h
  · rename_i o hselected
    split at hselected
    · cases hselected
    · split at hselected
      · split at hselected <;> cases hselected <;> cases h
      · split at hselected
        · cases hselected
        · cases hselected
          cases h
      · cases hselected
        cases h
  · cases h
  · rename_i candidate others hselected
    have hlabelled : candidate ∈ cs.filter fun c => c.isCandidate result.operationId := by
      split at hselected
      · injection hselected with hlabeled
        rw [hlabeled]
        exact List.mem_cons_self ..
      · split at hselected
        · split at hselected <;> cases hselected
        · split at hselected
          · rename_i hmem
            cases hselected
            exact hmem
          · cases hselected
        · cases hselected
    split at h
    · cases h
    · split at h
      · cases h
      · cases h
        obtain ⟨hmem, hcandidate⟩ := List.mem_filter.mp hlabelled
        exact ⟨candidate, hmem, rfl, hcandidate⟩

end Observing

end Guards

end MediaSync.UpdaterGuards
