import Monocycle.Proofs.Web.Answers

/-!
# What requests change

A request changes the simulator only if it is carried out: it is made with `POST`, for an operation
that takes this method, and it is answered with the status 200. All others leave everything as it
was, and there is always a step or a run before the last thing that might go wrong, which is telling
the state.

So a session over the web comes to a history of operations. Each `POST` request makes a call that
can be read off the request and the settings (`Request.call?`), and those calls that were answered
with 200, one after the other, lead to where the requests lead.

## Main definitions

* `Request.call?`: the operation that a request makes.
* `callsAnswered`: the calls of the requests that were carried out.

## Main results

* `answer_cases`: a request changes nothing, or it is the call that it makes.
* `answers_eq_after`: **requests that are not carried out change nothing.**
-/

namespace Monocycle

open Simulator

/-- The call of a request to run with a limit; it has no pause. -/
def Simulator.runCall (limit : Int) : Operation :=
  let options : RunOptions := ⟨some limit, none, some 0⟩
  .run (fun _ => Listener.conduct) options.rounds options

/-- The operation on the simulator that a `POST` request for an operation stands for. -/
def Request.callOf? (settings : Settings) (payload? : Option Value) : Route → Option Operation
  | .load => (program? payload?).map .load
  | .step => some (.step Listener.conduct)
  | .run =>
    (entries? payload?).bind fun entries => (settings.limitFor entries).toOption.map runCall
  | .reset => some .reset
  | .state => none

/-- The **call** that a request makes: the operation on the simulator that it stands for if it is
made with `POST`. It is told from the request and the settings alone. -/
def Request.call? (settings : Settings) (r : Request) : Option Operation :=
  if r.IsPost then (Route.ofPath? r.path).bind (callOf? settings r.payload?) else none

/-- The **calls that were answered**: those of the requests that got a response with the status
200, of the statuses of all responses. -/
def callsAnswered (settings : Settings) (rs : List Request) (statuses : List Nat) :
    List Operation :=
  (rs.zip statuses).filterMap fun (r, status) =>
    if status = 200 then r.call? settings else none

namespace Simulator

variable {s : Simulator} {words : Int}

/-- A request is **carried out** as an operation: it leads to the simulator after the operation, and
is answered with the status 200. -/
def CarriesOut (s : Simulator) (op : Operation) (answer : Simulator × Response) : Prop :=
  answer.1 = (s.perform op).simulator ∧ answer.2.status = 200

/-- Telling the state after an operation carries it out. -/
theorem carriesOut_stateResponse (hwords : s.settings.Shows words) (op : Operation)
    (more : Entries) :
    s.CarriesOut op ((s.perform op).simulator, (s.perform op).simulator.stateResponse more) := by
  obtain ⟨entries, -, hresponse⟩ := tellsState_stateResponse (shows_perform hwords op) more
  refine ⟨rfl, ?_⟩
  rw [hresponse]
  rfl

/-- A request with another method than `POST` changes nothing. -/
theorem simulator_answer_of_not_isPost {r : Request} (h : ¬r.IsPost) : (s.answer r).1 = s := by
  rw [Request.IsPost] at h
  simp only [answer]
  split
  · rfl
  · next route _ =>
      split
      · next hmethod =>
          cases route with
          | state => rfl
          | load | step | run | reset => exact absurd hmethod h
      · split
        · rfl
        · split
          · rfl
          · rfl

/-- A `POST` request for a path without such an operation is refused. -/
theorem answer_of_isPost_of_state {r : Request} (h : r.IsPost)
    (hroute : Route.ofPath? r.path = some .state) : s.answer r = (s, .methodNotAllowed) := by
  rw [Request.IsPost] at h
  simp [answer, hroute, h, Route.method]

/-- A request **is refused** if it changes nothing and is not answered with the status 200. -/
def Refuses (s : Simulator) (answer : Simulator × Response) : Prop :=
  answer.1 = s ∧ answer.2.status ≠ 200

/-- A response with another status than 200, given without doing anything, refuses a request. -/
theorem refuses_of_status {response : Response} (h : response.status ≠ 200) :
    s.Refuses (s, response) :=
  ⟨rfl, h⟩

/-- An error refuses a request. -/
theorem refuses_of_givesError {response : Response} (h : response.GivesError) :
    s.Refuses (s, response) :=
  refuses_of_status (by simp [h.status])

/-- A request to load is refused or carried out as a load. -/
theorem answerLoad_effect (hwords : s.settings.Shows words) (payload? : Option Value) :
    s.Refuses (s.answerLoad payload?) ∨ ∃ source, Request.program? payload? = some source ∧
      s.CarriesOut (.load source) (s.answerLoad payload?) := by
  obtain ⟨-, hanswer⟩ | ⟨-, -, response, herror, hanswer⟩ | ⟨source, hprogram, hload⟩ :=
    answerLoad_cases s payload?
  · exact .inl (hanswer ▸ refuses_of_status (by decide))
  · exact .inl (hanswer ▸ refuses_of_givesError herror)
  · obtain ⟨count, -, hanswer⟩ | ⟨e, response, -, herror, hanswer⟩ | ⟨line, count, -, hanswer⟩ :=
      hload
    · exact .inr ⟨source, hprogram, hanswer ▸ carriesOut_stateResponse hwords (.load source) _⟩
    · exact .inl (hanswer ▸ refuses_of_givesError herror)
    · exact .inl (hanswer ▸ refuses_of_status (by decide))

/-- A request to run is refused or carried out as a run with the limit that it finds. -/
theorem answerRun_effect (hwords : s.settings.Shows words) (payload? : Option Value) :
    s.Refuses (s.answerRun payload?) ∨ ∃ entries limit,
      Request.entries? payload? = some entries ∧ s.settings.limitFor entries = .ok limit ∧
      s.CarriesOut (runCall limit) (s.answerRun payload?) := by
  obtain ⟨-, hanswer⟩ | ⟨entries, hentries, hrun⟩ := answerRun_cases s payload?
  · exact .inl (hanswer ▸ refuses_of_status (by decide))
  · obtain ⟨-, hanswer⟩ | ⟨-, response, herror, hanswer⟩ | ⟨limit, result, hlimit, -, hanswer⟩ :=
      hrun
    · exact .inl (hanswer ▸ refuses_of_status (by decide))
    · exact .inl (hanswer ▸ refuses_of_givesError herror)
    · exact .inr ⟨entries, limit, hentries, hlimit,
        hanswer ▸ carriesOut_stateResponse hwords (runCall limit) _⟩

/-- A request for a step is carried out. -/
theorem answerStep_effect (hwords : s.settings.Shows words) :
    s.CarriesOut (.step Listener.conduct) s.answerStep := by
  have hanswer : s.answerStep = (s.step.simulator, s.step.simulator.stateResponse
      [("outcome", s.machine.outcome.toValue)]) := by
    simp only [answerStep, answer_step]
  rw [hanswer]
  exact carriesOut_stateResponse hwords (.step Listener.conduct) _

/-- **A request changes nothing, or it is the call that it makes.** If it changes nothing and is
answered with the status 200 all the same, it makes no call. -/
theorem answer_cases (hwords : s.settings.Shows words) (r : Request) :
    ((s.answer r).1 = s ∧ ((s.answer r).2.status = 200 → r.call? s.settings = none)) ∨
      ∃ op, r.call? s.settings = some op ∧ s.CarriesOut op (s.answer r) := by
  have hrefused : s.Refuses (s.answer r) →
      (s.answer r).1 = s ∧ ((s.answer r).2.status = 200 → r.call? s.settings = none) :=
    fun h => ⟨h.1, fun hok => absurd hok h.2⟩
  by_cases hpost : r.IsPost
  · have hcall : r.call? s.settings = (Route.ofPath? r.path).bind
        (Request.callOf? s.settings r.payload?) := if_pos hpost
    cases hroute : Route.ofPath? r.path with
    | none =>
        have hanswer : s.answer r = (s, .notFound) := by simp only [answer, hroute]
        exact .inl (hrefused (hanswer ▸ refuses_of_status (by decide)))
    | some route =>
        rw [hroute, Option.bind_some] at hcall
        cases route with
        | load =>
            have hanswer : s.answer r = s.answerLoad r.payload? :=
              answer_of_isPost hpost hroute rfl
            obtain hrefuses | ⟨source, hprogram, hdone⟩ := answerLoad_effect hwords r.payload?
            · exact .inl (hrefused (hanswer ▸ hrefuses))
            · exact .inr ⟨_, by rw [hcall, Request.callOf?, hprogram]; rfl, hanswer ▸ hdone⟩
        | step =>
            rw [answer_of_isPost hpost hroute rfl]
            exact .inr ⟨_, hcall, answerStep_effect hwords⟩
        | run =>
            have hanswer : s.answer r = s.answerRun r.payload? :=
              answer_of_isPost hpost hroute rfl
            obtain hrefuses | ⟨entries, limit, hentries, hlimit, hdone⟩ :=
              answerRun_effect hwords r.payload?
            · exact .inl (hrefused (hanswer ▸ hrefuses))
            · exact .inr ⟨_, by rw [hcall, Request.callOf?, hentries, Option.bind_some, hlimit]; rfl,
                hanswer ▸ hdone⟩
        | reset =>
            rw [answer_of_isPost hpost hroute rfl]
            exact .inr ⟨_, hcall, carriesOut_stateResponse hwords .reset []⟩
        | state =>
            have hanswer := answer_of_isPost_of_state (s := s) hpost hroute
            exact .inl (hrefused (hanswer ▸ refuses_of_status (by decide)))
  · exact .inl ⟨simulator_answer_of_not_isPost hpost, fun _ => if_neg hpost⟩

/-! ### Requests one after the other -/

theorem answers_cons (s : Simulator) (r : Request) (rest : List Request) :
    s.answers (r :: rest) = (((s.answer r).1.answers rest).1,
      (s.answer r).2 :: ((s.answer r).1.answers rest).2) := rfl

/-- A request keeps the settings. -/
theorem settings_answer (hwords : s.settings.Shows words) (r : Request) :
    (s.answer r).1.settings = s.settings := by
  obtain ⟨hsame, -⟩ | ⟨op, -, hdone, -⟩ := answer_cases hwords r
  · rw [hsame]
  · rw [hdone, settings_perform]

theorem settings_answers (hwords : s.settings.Shows words) (rs : List Request) :
    (s.answers rs).1.settings = s.settings := by
  induction rs generalizing s with
  | nil => rfl
  | cons r rest ih =>
      have hsettings := settings_answer hwords r
      rw [answers_cons]
      exact (ih (hsettings ▸ hwords)).trans hsettings

/-- **Requests lead where their answered calls lead.** -/
theorem simulator_answers (hwords : s.settings.Shows words) (rs : List Request) :
    (s.answers rs).1 = s.after (callsAnswered s.settings rs ((s.answers rs).2.map (·.status))) := by
  induction rs generalizing s with
  | nil => rfl
  | cons r rest ih =>
      have hsettings := settings_answer hwords r
      have hrest := ih (s := (s.answer r).1) (hsettings ▸ hwords)
      rw [hsettings] at hrest
      rw [answers_cons]
      dsimp only
      rw [hrest]
      obtain ⟨hsame, hnone⟩ | ⟨op, hcall, hdone, hstatus⟩ := answer_cases hwords r
      · have hskip : (if (s.answer r).2.status = 200 then r.call? s.settings else none) = none := by
          split
          · next h => exact hnone h
          · rfl
        simp only [callsAnswered, List.map_cons, List.zip_cons_cons, List.filterMap_cons, hskip,
          hsame]
      · have hmake : (if (s.answer r).2.status = 200 then r.call? s.settings else none) =
            some op := by
          rw [if_pos hstatus, hcall]
        simp only [callsAnswered, List.map_cons, List.zip_cons_cons, List.filterMap_cons, hmake]
        rw [after, after, List.foldl_cons, ← hdone]

/-- **Requests that are not carried out change nothing.** Let a simulator show some number of words,
and let requests of any kind be made of it one after the other. Whenever one of them is not answered
with the status 200, or is not made with `POST`, like one for the state, the simulator is afterwards
what it was before. In the end it is what the calls make of it that the answered `POST` requests
stand for, one after the other and without any others. -/
theorem answers_eq_after (s : Simulator) {words : Int} (hwords : s.settings.Shows words)
    (rs : List Request) :
    (s.answers rs).1 = s.after (callsAnswered s.settings rs ((s.answers rs).2.map (·.status))) ∧
    ∀ before r later, rs = before ++ r :: later →
      let s' := (s.answers before).1
      (s'.answer r).2.status ≠ 200 ∨ ¬r.IsPost → (s'.answer r).1 = s' := by
  refine ⟨simulator_answers hwords rs, fun before r later _ => ?_⟩
  intro s' hr
  have hshows : s'.settings.Shows words := by
    rwa [settings_answers hwords]
  obtain hstatus | hpost := hr
  · obtain ⟨hsame, -⟩ | ⟨op, -, -, hok⟩ := answer_cases hshows r
    · exact hsame
    · exact absurd hok hstatus
  · exact simulator_answer_of_not_isPost hpost

/-- A program is loaded, a run with a limit that is no numeral is refused, a step is carried out, a
malformed program is rejected, the state is asked for, and a run with an infinite limit fails: what
is left is the load and the step. -/
theorem answers_eq_after_load_step :
    ∃ s, create .builtIn (some 16) = .ok s ∧
      let source := "addi x1, x0, 5\nsw x1, 4(x0)"
      let rs : List Request :=
        [⟨"POST", "/load", some (.map [("program", .text source)])⟩,
          ⟨"POST", "/run", some (.map [("max_steps", .text "four")])⟩,
          ⟨"POST", "/step", none⟩,
          ⟨"POST", "/load", some (.map [("program", .text "loop: ,")])⟩,
          ⟨"GET", "/state", none⟩,
          ⟨"POST", "/run", some (.map [("max_steps", .real (.infinite false))])⟩]
      (s.answers rs).2.map (·.status) = [200, 400, 200, 400, 200, 500] ∧
      (s.answers rs).1 = s.after [.load source.toList, .step Listener.conduct] := by
  obtain ⟨s, hcreate⟩ : ∃ s, create .builtIn (some 16) = .ok s := ⟨_, rfl⟩
  refine ⟨s, hcreate, ?_⟩
  intro source rs
  have hsettings : s.settings = .builtIn := by
    cases hcreate
    rfl
  have hwords : s.settings.Shows 16 := by
    rw [hsettings]
    rfl
  have hstatus : (s.answers rs).2.map (·.status) = [200, 400, 200, 400, 200, 500] := by
    cases hcreate
    decide +kernel
  refine ⟨hstatus, ?_⟩
  have hcalls : callsAnswered .builtIn rs [200, 400, 200, 400, 200, 500] =
      [.load source.toList, .step Listener.conduct] := by
    have hload : Route.ofPath? "/load" = some .load := by decide +kernel
    have hstep : Route.ofPath? "/step" = some .step := by decide +kernel
    simp [callsAnswered, rs, Request.call?, Request.IsPost, Request.callOf?, Request.program?,
      Request.entries?, Entries.get?, hload, hstep]
  rw [(answers_eq_after s hwords rs).1, hstatus, hsettings, hcalls]

end Simulator

end Monocycle
