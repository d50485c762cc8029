import ImageBuild.Proofs.Engine.Told
import ImageBuild.Proofs.Engine.Versions
import ImageBuild.Proofs.Store.Ledger
import ImageBuild.Proofs.Store.Orderless

/-! The log as a chronicle: what it tells of the phases of a build, and what has become of the build in the store. -/

namespace ImageBuild

open Journal Log Run Worker

/-- The build of a draft may be handed out. -/
theorem Draft.Asked.issued {d : Draft} (asked : d.Asked) (j : Journal Memory) : j.Issued d.build :=
  ⟨fun saved => absurd asked.version saved, fun _ _ => asked.unbegun.2⟩

/-- A memory refuses builds because of their version only. -/
theorem Memory.conflict_of_refused {b : Build} {m : Memory} {e : BuildError}
    (refused : (m.save b).result = .error e) :
    ∃ stored, e = .conflict b.reference.key stored b.version := by
  rw [result_save] at refused
  cases conflict : b.conflict? (m.builds.get? b.reference.key) with
  | none =>
    rw [conflict] at refused
    cases refused
  | some fault =>
    rw [conflict] at refused
    cases refused
    -- There is one kind of conflict only, and it names the version of the build.
    simp only [Build.conflict?, ite_eq_iff, reduceCtorEq, and_false, false_or, Option.some.injEq] at conflict
    exact ⟨_, conflict.2.symm⟩

namespace Engine

/-- The name of the build that an operation is about. -/
def Operation.subject : Operation → Reference
  | schedule _ _ d => d.build.reference
  | load place => place
  | move _ b => b.reference

variable {σ : Type} [BuildStore σ] [LedgerStore σ]

/-- A store as its journal has it, with a place in it, and builds that may have been handed out. -/
structure Kept (place : Reference) (j : Journal Memory) (st : σ) (copies : List Build) : Prop where
  holds : LedgerStore.Holds st j
  sound : j.Sound
  admits : LedgerStore.Admits st place
  issued : ∀ b ∈ copies, j.Issued b

/-- Why a call has failed, if it has. -/
def failure? : Except BuildError Build → Option BuildError
  | .ok _ => none
  | .error e => some e

/-- What a call has told of a build, while it went from one phase to another in the store. -/
inductive Tells (place : Reference) (source target : Phase) :
    Option BuildError → List (Phase × Phase) → Prop
  /-- A call that succeeds tells what has become of the build. -/
  | made : Tells place source target none (source.crossed target)
  /-- A call that fails changes nothing, and need not tell anything. -/
  | failed (e : BuildError) (same : target = source) : Tells place source target (some e) []
  /-- A call whose build is refused changes nothing either, whatever it has told. -/
  | refused (stored given : UInt64) (news : List (Phase × Phase)) (same : target = source) :
      Tells place source target (some (.conflict place.key stored given)) news

/-- What a call has come to: the builds that it was given are kept, and what it has told is what has become of
them, or is as good as refused. -/
structure Episode (place : Reference) (n : ℕ) (j : Journal Memory) (st after : σ) (copies : List Build)
    (result : Except BuildError Build) (news : List (Phase × Phase)) (k : Journal Memory) : Prop where
  kept : Kept place k after (result.toOption.toList ++ copies)
  grown : j.GrownBy n k
  tells : (k.savesOf place.key).length < 2 ^ 64 →
    Tells place (phaseIn place st) (phaseIn place after) (failure? result) news

variable {place : Reference} {j : Journal Memory} {st : σ} {copies : List Build}

/-- A call that succeeds and changes nothing tells nothing. -/
theorem Tells.idle (phase : Phase) : Tells place phase phase none [] := by
  -- From a phase to itself nothing is crossed.
  rw [← phase.crossed_self]
  exact .made

/-- A call that fails before it saves anything leaves everything as it is. -/
theorem Kept.failed (kept : Kept place j st copies) (n : ℕ) (e : BuildError) :
    Episode place n j st st copies (.error e) [] j :=
  ⟨kept, .refl n j, fun _ => .failed e rfl⟩

/-- A call that saves nothing leaves everything as it is, and hands a build out that could be handed out. -/
theorem Kept.answered (kept : Kept place j st copies) (n : ℕ) {b : Build} (issued : j.Issued b) :
    Episode place n j st st copies (.ok b) [] j := by
  -- The copy handed out has been issued by the store.
  refine ⟨{ kept with issued := fun c member => ?_ }, .refl n j, fun _ => .idle _⟩
  rcases List.mem_cons.mp member with rfl | older
  · exact issued
  · exact kept.issued c older

section Saving

variable {b target : Build} (reference : target.reference = b.reference)

include reference

/-- A call whose build the store refuses leaves everything as it is, whatever it has told. -/
theorem Kept.refused (kept : Kept place j st copies) (admits : LedgerStore.Admits st b.reference)
    {e : BuildError} (refused : (BuildStore.save target j).result = .error e) :
    Episode place 1 j st (BuildStore.save target st).store copies (.error e) (b.news target place.key) j := by
  obtain ⟨_, holds⟩ := LedgerStore.save kept.holds (reference ▸ admits)
  rw [save_refused refused] at holds
  have here := LedgerStore.admits (b := target) kept.admits
  have same : phaseIn place (BuildStore.save target st).store = phaseIn place st := by
    rw [LedgerStore.phaseIn_eq holds here, LedgerStore.phaseIn_eq kept.holds kept.admits]
  refine ⟨⟨holds, kept.sound, here, kept.issued⟩, .refl _ _, fun _ => ?_⟩
  -- Only under the key of the build something has been told.
  by_cases own : b.reference.key = place.key
  · obtain ⟨stored, rfl⟩ := Memory.conflict_of_refused (m := j.store) refused
    rw [reference, own]
    exact .refused _ _ _ same
  · rw [Build.news, if_neg own]
    exact .failed e same

variable (version : target.version = b.version)

include version

/-- A call whose build the store takes has told what has become of the build there. -/
theorem Kept.stored (kept : Kept place j st copies) (issued : j.Issued b)
    (admits : LedgerStore.Admits st b.reference) {r : Build}
    (saved : (BuildStore.save target j).result = .ok r) :
    Episode place 1 j st (BuildStore.save target st).store copies (.ok r) (b.news target place.key)
      (BuildStore.save target j).store := by
  obtain ⟨_, holds⟩ := LedgerStore.save kept.holds (reference ▸ admits)
  have here := LedgerStore.admits (b := target) kept.admits
  have grown : j.GrownBy 1 (BuildStore.save target j).store :=
    ⟨[j.noted target], by rw [(save_ok saved).2.2], Nat.le_refl 1⟩
  have sound := kept.sound.save saved
  -- Right after the save the store has the build under its key.
  have loaded : (BuildStore.save target j).store.store.load target.reference = .ok r := by
    rw [(save_ok saved).2.2]
    exact (Memory.load_of_saved (m := j.store) saved _).trans (if_pos rfl)
  refine ⟨⟨holds, sound, here, fun c member => ?_⟩, grown, fun within => ?_⟩
  · -- What the call returns is in the store by now, from where it could be loaded.
    rcases List.mem_cons.mp member with rfl | older
    · exact sound.issued_loaded loaded
    · exact (kept.issued c older).mono grown
  · rw [LedgerStore.phaseIn_eq kept.holds kept.admits, LedgerStore.phaseIn_eq holds here,
      phaseIn_save saved, reference]
    by_cases own : place.key = b.reference.key
    · -- The store takes what became of a build only where the build is in the phase it had in hand.
      have within := Nat.lt_of_le_of_lt (grown.savesOf place.key).1 within
      have there := kept.sound.phaseIn_of_saved reference version saved issued own (own ▸ within)
      rw [if_pos own, Build.news, if_pos own.symm, there]
      exact .made
    -- A save under another key is no news for this one.
    · rw [if_neg own, Build.news, if_neg (Ne.symm own)]
      exact .idle _

/-- A call that gives a build to the store has told what becomes of it, unless the store refuses the build. -/
theorem Kept.saved (kept : Kept place j st copies) (issued : j.Issued b)
    (admits : LedgerStore.Admits st b.reference) :
    ∃ k, Episode place 1 j st (BuildStore.save target st).store copies (BuildStore.save target st).result
      (b.news target place.key) k := by
  rw [(LedgerStore.save kept.holds (reference ▸ admits)).1]
  -- Both outcomes of a save are episodes.
  cases saved : (BuildStore.save target j).result with
  | error e => exact ⟨j, kept.refused reference admits saved⟩
  | ok r => exact ⟨_, kept.stored reference version issued admits saved⟩

end Saving

/-- What a call reports of a build is so, unless the store refuses the build. -/
theorem Reports.episode {Becomes : Build → Prop} {b : Build} {after : σ}
    {result : Except BuildError Build} {news : List (Phase × Phase)}
    (reports : Reports Becomes b st place.key result after news)
    (same : ∀ target, Becomes target → target.reference = b.reference ∧ target.version = b.version)
    (kept : Kept place j st copies) (issued : j.Issued b)
    (admits : LedgerStore.Admits st b.reference) :
    ∃ k, Episode place 1 j st after copies result news k := by
  -- Only a changed build is saved, and all other outcomes leave the store as it is.
  cases reports with
  | failed e => exact ⟨j, kept.failed 1 e⟩
  | kept made => exact ⟨j, kept.answered 1 issued⟩
  | saved target made changed =>
    obtain ⟨reference, version⟩ := same target made
    exact kept.saved reference version issued admits

/-- A store that holds what its journal has is not heard of when builds are saved. -/
theorem Kept.unheard (kept : Kept place j st copies) {b : Build}
    (admits : LedgerStore.Admits st b.reference) : Unheard b.reference st :=
  fun _ same => LedgerStore.events kept.holds (same ▸ admits)

/-- A call on a build is an episode. -/
theorem Move.episode (m : Move) {b : Build} {g : Engine σ} (kept : Kept place j g.store copies)
    (issued : j.Issued b) (admits : LedgerStore.Admits g.store b.reference) :
    ∃ k news, Episode place 1 j g.store ((m.make b).run.run g).2.store copies
        ((m.make b).run.run g).1 news k ∧
      told place.key ((m.make b).run.run g).2.log = told place.key g.log ++ news := by
  -- What the move reports is an episode of the store.
  obtain ⟨news, reports, heard⟩ := m.reports b g place.key (kept.unheard admits)
  obtain ⟨k, episode⟩ := reports.episode (fun _ made => m.becomes_same made) kept issued admits
  exact ⟨k, news, episode, heard⟩

/-- Where nothing is told, the build is still in its phase. -/
theorem Tells.of_nil {source target : Phase} {failure : Option BuildError}
    (tells : Tells place source target failure []) : target = source := by
  generalize silence : ([] : List (Phase × Phase)) = news at tells
  -- Silence means that no phase was crossed, or that the call has failed.
  cases tells with
  | made =>
    unfold Phase.crossed at silence
    split at silence
    · assumption
    · cases silence
  | failed e same => exact same
  | refused stored given news same => exact same

/-- Two episodes are one where the first tells nothing, and the second goes on with what it has handed out. -/
theorem Episode.trans {mid after : σ} {k l : Journal Memory} {m n : ℕ} {r : Build}
    {result : Except BuildError Build} {news : List (Phase × Phase)}
    (first : Episode place m j st mid copies (.ok r) [] k)
    (later : Episode place n k mid after (r :: copies) result news l) :
    Episode place (m + n) j st after copies result news l := by
  refine ⟨{ later.kept with issued := fun c member => later.kept.issued c ?_ },
    first.grown.trans later.grown, fun within => ?_⟩
  · rcases List.mem_append.mp member with handed | older
    · exact List.mem_append_left _ handed
    · exact List.mem_append_right _ (List.mem_cons_of_mem _ older)
  -- In the first part nothing is told, so that the phase in the middle is that of the beginning.
  · have before := first.tells (Nat.lt_of_le_of_lt (later.grown.savesOf _).1 within)
    rw [← before.of_nil]
    exact later.tells within

/-- A schedule is an episode of no more than two saves. -/
theorem schedule_episode (s : Settings) (now : Instant) {d : Draft} (asked : d.Asked) {g : Engine σ}
    (kept : Kept place j g.store copies) (admits : LedgerStore.Admits g.store d.build.reference) :
    ∃ k news, Episode place 2 j g.store ((schedule s now d).run.run g).2.store copies
        ((schedule s now d).run.run g).1 news k ∧
      told place.key ((schedule s now d).run.run g).2.log = told place.key g.log ++ news := by
  unfold schedule
  have quiet := Site.silent_work (Context.replace s.config.podNamePrefix d.build d.files) place.key g.toSite
  rw [run_bind, run_atSite]
  rcases ran : (Site.work (Context.replace s.config.podNamePrefix d.build d.files)).run.run g.toSite
    with ⟨result, t⟩
  rw [ran] at quiet
  cases result with
  | error e => exact ⟨j, [], kept.failed 2 e, by simpa using quiet⟩
  | ok done =>
    -- The first save leaves the build in the phase in which it is.
    obtain ⟨i, first⟩ := kept.saved rfl rfl (asked.issued j) admits
    rw [d.build.news_of_phase rfl] at first
    simp only
    rw [run_bind, run_persist]
    simp only [kept.unheard admits _ rfl, List.append_nil]
    -- After the first save the draft is carried on, and that is the second save at most.
    cases saved : (BuildStore.save d.build g.store).result with
    | error e =>
      rw [saved] at first
      exact ⟨_, [], { first with grown := first.grown.trans (.refl 1 _) }, by simpa using quiet⟩
    | ok r =>
      rw [saved] at first
      simp only
      rw [run_bind, note, run_atSite, Site.run_record]
      have reference : r.reference = d.build.reference := by
        have journaled := (LedgerStore.save kept.holds admits).1
        rw [saved] at journaled
        rw [(save_ok journaled.symm).1]
        rfl
      have here : LedgerStore.Admits (BuildStore.save d.build g.store).store r.reference :=
        reference ▸ LedgerStore.admits admits
      obtain ⟨k, news, later, heard⟩ := Move.episode (.reconcile s now)
        (g := ⟨⟨t.cluster, t.log ++ [.info ("Scheduled build " ++ r.reference.key)]⟩, _⟩) first.kept
        (first.kept.issued r List.mem_cons_self) here
      rw [told_bare rfl, quiet] at heard
      exact ⟨k, news, first.trans later, heard⟩

/-- Whatever is asked of an engine, it is an episode. -/
theorem Operation.episode {o : Operation} {g : Engine σ} (permitted : o.Permitted copies)
    (kept : Kept place j g.store copies) (admits : LedgerStore.Admits g.store o.subject) :
    ∃ k news, Episode place 2 j g.store (o.perform.run.run g).2.store copies
        (o.perform.run.run g).1 news k ∧
      told place.key (o.perform.run.run g).2.log = told place.key g.log ++ news := by
  -- A schedule saves twice at most, a move once, and a load not at all.
  cases o with
  | schedule s now d => exact schedule_episode s now permitted kept admits
  | load other =>
    refine ⟨j, [], ?_, ?_⟩ <;> rw [perform, run_load]
    · cases loaded : BuildStore.load other g.store with
      | error e => exact kept.failed 2 e
      | ok b =>
        have admits : LedgerStore.Admits g.store other := admits
        rw [LedgerStore.load kept.holds admits] at loaded
        exact kept.answered 2 (kept.sound.issued_loaded loaded)
    · exact (List.append_nil _).symm
  | move m b =>
    obtain ⟨k, news, episode, heard⟩ := m.episode kept (kept.issued b permitted) admits
    exact ⟨k, news, { episode with grown := episode.grown.trans (.refl 1 k) }, heard⟩

/-- An engine with the builds that it has handed out so far, and the failure of the call that came last. -/
structure Moment (σ : Type) where
  engine : Engine σ
  copies : List Build
  failure : Option BuildError

namespace Moment

/-- The moment after an operation. -/
def after (t : Moment σ) (o : Operation) : Moment σ :=
  let (result, g) := o.perform.run.run t.engine
  ⟨g, result.toOption.toList ++ t.copies, failure? result⟩

/-- What may happen next, in a store and under names that it admits. -/
inductive Next (t : Moment σ) : Moment σ → Prop
  /-- A client looks at the build of a draft. -/
  | drafted {d : Draft} (asked : d.Asked) : Next t ⟨t.engine, d.build :: t.copies, none⟩
  /-- The cluster changes in some way, or is about to fail. -/
  | disturbed (cluster : Cluster) : Next t ⟨{ t.engine with cluster := cluster }, t.copies, none⟩
  /-- An operation succeeds or fails, with whatever copy of a build. -/
  | performed {o : Operation} (permitted : o.Permitted t.copies)
      (admits : LedgerStore.Admits t.engine.store o.subject) : Next t (t.after o)

end Moment

/-- What the calls of a course have told under a key, the oldest first, each with the failure of its call. -/
def reports (key : String) : List (Moment σ) → List (Option BuildError × Phase × Phase)
  | later :: earlier :: past =>
    let news := (told key later.engine.log).drop (told key earlier.engine.log).length
    reports key (earlier :: past) ++ news.map (later.failure, ·)
  | _ => []

/-- The changes of phase of the build in the store along a course, the oldest first. -/
def changes (place : Reference) : List (Moment σ) → List (Phase × Phase)
  | later :: earlier :: past =>
    changes place (earlier :: past)
      ++ (phaseIn place earlier.engine.store).crossed (phaseIn place later.engine.store)
  | _ => []

/-- What the log tells of a build is what was reported of it, and what was reported by calls that did not fail is
what has become of it. -/
structure Chronicle (place : Reference) (first last : Moment σ) (past : List (Moment σ)) : Prop where
  told : told place.key last.engine.log =
    told place.key first.engine.log ++ (reports place.key (last :: past)).map Prod.snd
  made : changes place (last :: past) =
    ((reports place.key (last :: past)).filter (·.1.isNone)).map Prod.snd
  refused : ∀ report ∈ reports place.key (last :: past), ∀ e, report.1 = some e →
    ∃ stored given, e = .conflict place.key stored given

/-- Whatever happens next, the builds in hand are kept, and the log tells what has become of one. -/
theorem Moment.Next.tells {t u : Moment σ} (next : t.Next u)
    (kept : Kept place j t.engine.store t.copies) :
    ∃ k news, Kept place k u.engine.store u.copies ∧ j.GrownBy 2 k ∧
      ((k.savesOf place.key).length < 2 ^ 64 →
        Tells place (phaseIn place t.engine.store) (phaseIn place u.engine.store) u.failure news) ∧
      told place.key u.engine.log = told place.key t.engine.log ++ news := by
  -- Only a call writes to the store or to the log.
  cases next with
  | @drafted d asked =>
    obtain ⟨handed, grown, tells⟩ := kept.answered 2 (asked.issued j)
    exact ⟨j, [], handed, grown, tells, (List.append_nil _).symm⟩
  | disturbed cluster => exact ⟨j, [], kept, .refl 2 j, fun _ => .idle _, (List.append_nil _).symm⟩
  | @performed o permitted admits =>
    obtain ⟨k, news, ⟨handed, grown, tells⟩, heard⟩ := Operation.episode permitted kept admits
    exact ⟨k, news, handed, grown, tells, heard⟩

omit [LedgerStore σ] in
/-- A chronicle goes on with what happens next. -/
theorem Chronicle.next {first t u : Moment σ} {past : List (Moment σ)} {news : List (Phase × Phase)}
    (chronicle : Chronicle place first t past)
    (tells : Tells place (phaseIn place t.engine.store) (phaseIn place u.engine.store) u.failure news)
    (heard : Log.told place.key u.engine.log = Log.told place.key t.engine.log ++ news) :
    Chronicle place first u (t :: past) := by
  -- The new report comes after the older ones.
  have reported : reports place.key (u :: t :: past) =
      reports place.key (t :: past) ++ news.map (u.failure, ·) := by
    rw [reports, heard, List.drop_left]
  refine ⟨?_, ?_, ?_⟩
  · rw [reported, heard, chronicle.told]
    simp [Function.comp_def]
  · rw [changes, reported, chronicle.made, List.filter_append, List.map_append]
    -- What the call has told counts if it has not failed, and then it has changed nothing else.
    generalize u.failure = failure at tells
    cases tells with
    | made => simp [List.filter_map, Function.comp_def]
    | failed e same => simp [same]
    | refused stored given news same => simp [same, List.filter_map, Function.comp_def]
  · rw [reported]
    intro report member e failed
    rcases List.mem_append.mp member with older | new
    · exact chronicle.refused report older e failed
    · obtain ⟨pair, told, rfl⟩ := List.mem_map.mp new
      simp only at failed
      rw [failed] at tells
      cases tells with
      | failed _ same => cases told
      | refused stored given _ same => exact ⟨stored, given, rfl⟩

/-- Along every course the log is a chronicle of each build, as long as versions do not run out. -/
theorem chronicle_of_course {first last : Moment σ} {past : List (Moment σ)}
    (kept : Kept place j first.engine.store first.copies) (course : Course Moment.Next first (last :: past)) :
    ∃ k, Kept place k last.engine.store last.copies ∧ j.GrownBy (2 * past.length) k ∧
      ((k.savesOf place.key).length < 2 ^ 64 → Chronicle place first last past) := by
  generalize trace : last :: past = moments at course
  -- The induction is on the course; each moment adds what its call has told.
  induction course generalizing last past with
  | start =>
    obtain ⟨rfl, rfl⟩ := List.cons.inj trace
    exact ⟨j, kept, .refl 0 j, fun _ => ⟨(List.append_nil _).symm, rfl, nofun⟩⟩
  | @next current later past course next ih =>
    obtain ⟨rfl, rfl⟩ := List.cons.inj trace
    obtain ⟨k, between, grown, chronicle⟩ := ih rfl
    obtain ⟨l, news, after, grownOn, tells, heard⟩ := next.tells between
    refine ⟨l, after, grown.trans grownOn, fun within => ?_⟩
    -- Versions that last for one more call lasted for those before it.
    have before := Nat.lt_of_le_of_lt (grownOn.savesOf place.key).1 within
    exact (chronicle before).next (tells within) heard

/-- The log tells every change of the phase of a build in the store, once and in order. What it tells beside them was
told by calls whose build the store refused then as a conflict, so that it is just the changes where no such
call has told anything. -/
theorem log_tells_changes_and_conflicts {first last : Moment σ} {past : List (Moment σ)}
    (kept : Kept place j first.engine.store first.copies)
    (course : Course Moment.Next first (last :: past))
    (within : (j.savesOf place.key).length + 2 * past.length < 2 ^ 64) :
    told place.key last.engine.log =
      told place.key first.engine.log ++ (reports place.key (last :: past)).map Prod.snd ∧
    changes place (last :: past) =
      ((reports place.key (last :: past)).filter (·.1.isNone)).map Prod.snd ∧
    (∀ report ∈ reports place.key (last :: past), ∀ e, report.1 = some e →
      ∃ stored given, e = .conflict place.key stored given) ∧
    (told place.key last.engine.log = told place.key first.engine.log ++ changes place (last :: past) ↔
      ∀ report ∈ reports place.key (last :: past), report.1 = none) := by
  -- Two saves for each call leave room among the versions, as many as there are.
  obtain ⟨k, _, grown, chronicle⟩ := chronicle_of_course kept course
  have few := (grown.savesOf place.key).2
  obtain ⟨heard, made, refused⟩ := chronicle (by omega)
  refine ⟨heard, made, refused, ?_⟩
  rw [heard, made, List.append_cancel_left_eq]
  constructor
  · intro same report member
    -- Nothing has been left out of what was reported, for want of length.
    have full : ((reports place.key (last :: past)).filter (·.1.isNone)).length =
        (reports place.key (last :: past)).length := by
      simpa using (congrArg List.length same).symm
    exact Option.isNone_iff_eq_none.mp (List.length_filter_eq_length_iff.mp full report member)
  · intro unfailed
    rw [List.filter_eq_self.mpr fun report member => Option.isNone_iff_eq_none.mpr (unfailed report member)]

/-- A moment at which nothing has happened yet. -/
def Moment.opening : Moment Memory := ⟨⟨⟨.empty .epoch, []⟩, .empty⟩, [], none⟩

/-- The moment after a draft was scheduled. -/
def Moment.scheduled : Moment Memory := opening.after (.schedule usualSettings .epoch hastyDraft)

/-- The cancellation of the build as it was scheduled. -/
def hastyCancellation : Operation :=
  .move (.cancel usualSettings) hastyDraft.build.nextVersion.prepared.nextVersion

/-- The moment after the build was cancelled, when a client still holds it as it was scheduled. -/
def Moment.cancelled : Moment Memory := scheduled.after hastyCancellation

/-- The moment after that client has tried to cancel it as well. -/
def Moment.refused : Moment Memory := cancelled.after hastyCancellation

/-- All of this may happen. -/
theorem Moment.course_refused : Course Next opening [refused, cancelled, scheduled, opening] := by
  -- The build is scheduled, cancelled, and cancelled once more through the old copy.
  have asked : hastyDraft.Asked := .ofRequest (c := .standard) (q := hastyRequest) rfl
  have permitted : hastyCancellation.Permitted scheduled.copies ∧
      hastyCancellation.Permitted cancelled.copies := by
    simp only [hastyCancellation, Operation.Permitted]
    decide +kernel
  exact .next (.next (.next .start (.performed asked trivial)) (.performed permitted.1 trivial))
    (.performed permitted.2 trivial)

/-- A build that two clients cancel is told to be cancelled twice, although the store refuses the second one. -/
theorem log_tells_changes_and_conflicts_refused :
    told "ns/app" Moment.refused.engine.log =
      [(.new, .scheduling), (.scheduling, .cancelled), (.scheduling, .cancelled)] ∧
    changes ⟨"ns", "app"⟩ [.refused, .cancelled, .scheduled, .opening] =
      [(.new, .scheduling), (.scheduling, .cancelled)] := by
  have kept : Kept ⟨"ns", "app"⟩ ⟨.empty, []⟩ Moment.opening.engine.store Moment.opening.copies :=
    ⟨rfl, sound_empty, trivial, by simp [Moment.opening]⟩
  -- The last report is that of a call that was refused.
  have reported : reports "ns/app" [Moment.refused, .cancelled, .scheduled, .opening] =
      [(none, .new, .scheduling), (none, .scheduling, .cancelled),
        (some (.conflict "ns/app" 3 2), .scheduling, .cancelled)] := by decide +kernel
  have key : Reference.key ⟨"ns", "app"⟩ = "ns/app" := by decide
  obtain ⟨heard, made, _⟩ := log_tells_changes_and_conflicts kept Moment.course_refused (by decide)
  rw [key, reported] at heard made
  exact ⟨heard, made⟩

/-- What the log tells is not just what has become of the build: the store has kept one cancellation. -/
theorem refused_cancellation_is_told :
    Course Moment.Next .opening [.refused, .cancelled, .scheduled, .opening] ∧
    told "ns/app" Moment.refused.engine.log ≠
      told "ns/app" Moment.opening.engine.log
        ++ changes ⟨"ns", "app"⟩ [.refused, .cancelled, .scheduled, .opening] :=
  ⟨Moment.course_refused, by decide +kernel⟩

end Engine

end ImageBuild
