import Monocycle.Proofs.Simulator.Usable
import Monocycle.Web.Api

/-!
# What requests are answered

A request to load a program or to run it comes with data, and the data may be anything. This module
goes through all the ways such a request can go. What cannot be told from the data is whether the
simulator has an answer, and that is settled by what is known about steps and runs: a step always
has one, and so has a run with a limit, since listeners that react as they say of themselves look
after themselves. Telling the state afterwards needs no more than settings that show some number of
words of the memory.

Three things defeat a request. Data that counts as given and is no map is not looked into; an
infinite step limit is no integer, but refused in another way than the rest of what is none; and a
program may hold a decimal numeral over the digit limit. Each ends in a failure, and nothing
changes. Every other request to load or to run is answered, with the state or with an error.

## Main definitions

* `Request.program?`, `Settings.limitFor`: the program and the step limit that data asks for.
* `Response.TellsState`, `Response.GivesError`: the two kinds of answers.
* `Defeats`: the data that a request cannot be answered with.

## Main results

* `answerLoad_cases`, `answerRun_cases`: the ways a request to load or to run can go.
* `answered_post_iff`: **which requests to load or to run are answered.**
-/

namespace Monocycle

/-- The step limit of a run for the entries of a request: their own, or that of the settings. -/
def Settings.limitFor (settings : Settings) (entries : Entries) : Except LimitError Int :=
  limitOf ((entries.get? "max_steps").getD (valueOf settings.run "max_steps"))

namespace Request

/-- Whether a request is made with the method `POST`. -/
def IsPost (r : Request) : Prop :=
  String.ofList (r.method.toList.map Char.toUpper) = "POST"

instance (r : Request) : Decidable r.IsPost :=
  inferInstanceAs (Decidable (_ = _))

/-- The **program** that the data of a request gives, if it gives one as a text. -/
def program? (payload? : Option Value) : Option Text :=
  match (entries? payload?).bind (·.get? "program") with
  | some (.text source) => some source.toList
  | _ => none

end Request

namespace Response

/-- A response **tells the state** of a simulator, with more entries in front. -/
def TellsState (response : Response) (s : Simulator) (more : Entries) : Prop :=
  ∃ entries, s.stateEntries = .ok entries ∧ response = .ok (more ++ entries)

/-- A response **gives an error**: the request makes no sense, and the reason is told. -/
def GivesError (response : Response) : Prop :=
  ∃ entries reason, response = .badRequest entries ∧ entries.get? "error" = some (.text reason)

/-- A response **answers** a request: it tells the state of a simulator, or gives an error. -/
def Answers (response : Response) (s : Simulator) : Prop :=
  (∃ more, response.TellsState s more) ∨ response.GivesError

theorem GivesError.status {response : Response} (h : response.GivesError) :
    response.status = 400 := by
  obtain ⟨entries, reason, rfl, -⟩ := h
  rfl

/-- A failure answers nothing. -/
theorem not_answers_failure (s : Simulator) : ¬failure.Answers s := by
  rintro (⟨more, entries, -, h⟩ | ⟨entries, reason, h, -⟩)
  · cases congrArg Response.status h
  · cases congrArg Response.status h

end Response

namespace Simulator

variable {s : Simulator} {words : Int}

/-! ### Loads and the state -/

/-- With a window the state is told. -/
theorem tellsState_stateResponse (h : s.settings.Shows words) (more : Entries) :
    (s.stateResponse more).TellsState s more := by
  obtain ⟨entries, hentries⟩ : ∃ entries, s.stateEntries = .ok entries := by
    rw [stateEntries, memoryWindow_of_shows h]
    exact ⟨_, rfl⟩
  exact ⟨entries, hentries, by rw [stateResponse, hentries]⟩

/-- A load is accepted, or rejected, or finds a decimal numeral over the limit. In the last two
cases nothing changes. -/
theorem load_answer_cases (s : Simulator) (source : Text) :
    (∃ count, (s.load source).answer = .ok (.loaded count)) ∨
    (∃ e, (s.load source).answer = .ok (.rejected e) ∧ (s.load source).simulator = s) ∨
    ∃ line count, FailsAt source line (.tooManyDigits count) ∧
      (s.load source).answer = .error (.tooManyDigits count) ∧ (s.load source).simulator = s := by
  obtain hloaded | ⟨line, e, hfails⟩ := loaded_or_failsAt s source
  · exact .inl hloaded
  · have hload := load_of_failsAt s hfails
    cases e with
    | parse e => exact .inr (.inl ⟨e, hload⟩)
    | tooManyDigits count => exact .inr (.inr ⟨line, count, hfails, hload⟩)

/-! ### Requests to load and to run -/

/-- **The ways a request to load can go**: its data is not looked into, or gives no program, or the
program is accepted, rejected, or over the digit limit. -/
theorem answerLoad_cases (s : Simulator) (payload? : Option Value) :
    (Request.entries? payload? = none ∧ s.answerLoad payload? = (s, .failure)) ∨
    (Request.entries? payload? ≠ none ∧ Request.program? payload? = none ∧
      ∃ response, response.GivesError ∧ s.answerLoad payload? = (s, response)) ∨
    ∃ source, Request.program? payload? = some source ∧
      ((∃ count, (s.load source).answer = .ok (.loaded count) ∧
          s.answerLoad payload? = ((s.load source).simulator,
            (s.load source).simulator.stateResponse [("instructionCount", .int count)])) ∨
        (∃ e response, (s.load source).answer = .ok (.rejected e) ∧ response.GivesError ∧
          s.answerLoad payload? = (s, response)) ∨
        ∃ line count, FailsAt source line (.tooManyDigits count) ∧
          s.answerLoad payload? = (s, .failure)) := by
  cases hentries : Request.entries? payload? with
  | none => exact .inl ⟨rfl, by rw [answerLoad, hentries]⟩
  | some entries =>
      cases hprogram : Request.program? payload? with
      | none =>
          have hno : ∀ source, entries.get? "program" ≠ some (.text source) := by
            intro source h
            simp [Request.program?, hentries, h] at hprogram
          refine .inr (.inl ⟨by simp, rfl, .badRequest [("error", .text "missing 'program'")],
            ⟨_, _, rfl, rfl⟩, ?_⟩)
          rw [answerLoad, hentries]
          dsimp only
          split
          · next source h => exact absurd h (hno source)
          · rfl
      | some source =>
          obtain ⟨text, htext, rfl⟩ : ∃ text, entries.get? "program" = some (.text text) ∧
              text.toList = source := by
            simp only [Request.program?, hentries, Option.bind_some] at hprogram
            split at hprogram
            · next text h => exact ⟨text, h, Option.some.inj hprogram⟩
            · cases hprogram
          refine .inr (.inr ⟨text.toList, rfl, ?_⟩)
          obtain ⟨count, hload⟩ | ⟨e, hload, hsame⟩ | ⟨line, count, hfails, hload, hsame⟩ :=
            load_answer_cases s text.toList
          · refine .inl ⟨count, hload, ?_⟩
            simp only [answerLoad, hentries, htext, hload]
          · have hanswer : ∃ response, response.GivesError ∧
                s.answerLoad payload? = (s, response) := by
              simp only [answerLoad, hentries, htext, hload, hsame]
              exact ⟨_, ⟨_, e.message, rfl, rfl⟩, rfl⟩
            obtain ⟨response, herror, hanswer⟩ := hanswer
            exact .inr (.inl ⟨e, response, hload, herror, hanswer⟩)
          · refine .inr (.inr ⟨line, count, hfails, ?_⟩)
            simp only [answerLoad, hentries, htext, hload, hsame]

/-- **The ways a request to run can go**: its data is not looked into, or the limit is infinite, or
no integer, or there is a run. -/
theorem answerRun_cases (s : Simulator) (payload? : Option Value) :
    (Request.entries? payload? = none ∧ s.answerRun payload? = (s, .failure)) ∨
    ∃ entries, Request.entries? payload? = some entries ∧
      ((s.settings.limitFor entries = .error .infinite ∧
          s.answerRun payload? = (s, .failure)) ∨
        (s.settings.limitFor entries = .error .notAnInteger ∧
          ∃ response, response.GivesError ∧ s.answerRun payload? = (s, response)) ∨
        ∃ limit result, s.settings.limitFor entries = .ok limit ∧
          (s.run ⟨some limit, none, some 0⟩).answer = .ok result ∧
          s.answerRun payload? = ((s.run ⟨some limit, none, some 0⟩).simulator,
            (s.run ⟨some limit, none, some 0⟩).simulator.stateResponse
              [("steps", .int result.steps), ("outcome", .ofOption (·.toValue) result.last?)])) := by
  cases hentries : Request.entries? payload? with
  | none => exact .inl ⟨rfl, by rw [answerRun, hentries]⟩
  | some entries =>
      refine .inr ⟨entries, rfl, ?_⟩
      cases hlimit : s.settings.limitFor entries with
      | error e =>
          rw [Settings.limitFor] at hlimit
          cases e with
          | infinite =>
              refine .inl ⟨rfl, ?_⟩
              simp only [answerRun, hentries, hlimit]
          | notAnInteger =>
              refine .inr (.inl ⟨rfl, .badRequest [("error", .text "'max_steps' must be an integer")],
                ⟨_, _, rfl, rfl⟩, ?_⟩)
              simp only [answerRun, hentries, hlimit]
      | ok limit =>
          have hpause : s.runPause ⟨some limit, none, some 0⟩ = .ok 0 := rfl
          obtain ⟨result, hresult⟩ := exists_answer_run limit hpause Delay.refusal?_zero
          rw [Settings.limitFor] at hlimit
          refine .inr (.inr ⟨limit, result, rfl, hresult, ?_⟩)
          simp only [answerRun, hentries, hlimit, hresult]

/-- A `POST` request is a request for the operation at its path, if that takes the method. -/
theorem answer_of_isPost {r : Request} (h : r.IsPost) {route : Route}
    (hroute : Route.ofPath? r.path = some route) (hmethod : route.method = "POST") :
    s.answer r = s.answerRoute route r.payload? := by
  rw [Request.IsPost] at h
  simp only [answer, hroute, h, hmethod, if_true]

end Simulator

/-! ### Which requests are answered -/

/-- The data that **defeats** a request for an operation: what counts as given and is no map, an
infinite limit for a run, and for a load a program that fails for a decimal numeral over the digit
limit. -/
inductive Defeats : Route → Option Value → Prop
  | noMap {route : Route} {v : Value} :
      v.isTruthy = true → (∀ entries, v ≠ .map entries) → Defeats route (some v)
  | infinite {entries : Entries} {negative : Bool} :
      entries.get? "max_steps" = some (.real (.infinite negative)) →
      Defeats .run (some (.map entries))
  | tooManyDigits {payload? : Option Value} {source : Text} {line : SourceLine} {count : Nat} :
      Request.program? payload? = some source → FailsAt source line (.tooManyDigits count) →
      Defeats .load payload?

/-- Data is not looked into exactly if it counts as given and is no map. -/
theorem Request.entries?_eq_none_iff {payload? : Option Value} :
    entries? payload? = none ↔
      ∃ v, payload? = some v ∧ v.isTruthy = true ∧ ∀ entries, v ≠ .map entries := by
  cases payload? with
  | none => simp [entries?]
  | some v =>
      cases v with
      | map entries => simp [entries?]
      | null | bool _ | int _ | real _ | text _ | list _ => simp [entries?]

/-- Data that is looked into and gives no map gives no entries. -/
theorem Request.entries?_eq_some_cases {payload? : Option Value} {entries : Entries}
    (h : entries? payload? = some entries) : payload? = some (.map entries) ∨ entries = [] := by
  cases payload? with
  | none => exact .inr (Option.some.inj h).symm
  | some v =>
      cases v with
      | map _ => exact .inl (congrArg (fun e => some (Value.map e)) (Option.some.inj h))
      | null | bool _ | int _ | real _ | text _ | list _ =>
          simp only [entries?] at h
          split at h
          · cases h
          · exact .inr (Option.some.inj h).symm

/-- A value gives an infinite limit exactly if it is an infinite number. -/
theorem limitOf_eq_infinite_iff {v : Value} :
    limitOf v = .error .infinite ↔ ∃ negative, v = .real (.infinite negative) := by
  cases v with
  | real r =>
      cases r with
      | infinite negative => simp [limitOf]
      | notANumber => simp [limitOf, Real64.truncate?]
      | finite significand exponent => simp [limitOf, Real64.truncate?]
  | text t =>
      simp only [limitOf]
      split <;> simp
  | null | bool _ | int _ | list _ | map _ => simp [limitOf, Value.int?]

/-- With a limit in the settings, a limit is infinite only if the entries give such a one. -/
theorem Settings.limitFor_eq_infinite_iff {settings : Settings} {limit : Int}
    (h : (valueOf settings.run "max_steps").int? = some limit) {entries : Entries} :
    settings.limitFor entries = .error .infinite ↔
      ∃ negative, entries.get? "max_steps" = some (.real (.infinite negative)) := by
  rw [limitFor, limitOf_eq_infinite_iff]
  cases hgiven : entries.get? "max_steps" with
  | some v => simp
  | none =>
      simp only [Option.getD_none, reduceCtorEq, exists_false, iff_false, not_exists]
      intro negative heq
      rw [heq] at h
      cases h

/-- Whether the data of a request to load or to run **makes sense**: it gives a program, or a limit
that stands for an integer. -/
def Request.MakesSense (settings : Settings) : Route → Option Value → Prop
  | .load, payload? => program? payload? ≠ none
  | .run, payload? => ∃ entries limit, entries? payload? = some entries ∧
      settings.limitFor entries = .ok limit
  | .step, _ | .reset, _ | .state, _ => True

namespace Simulator

/-- A request to load or to run is **settled**: it is answered, and with an error if its data makes
no sense. -/
def Settled (settings : Settings) (route : Route) (payload? : Option Value)
    (answer : Simulator × Response) : Prop :=
  answer.2.Answers answer.1 ∧
    (¬Request.MakesSense settings route payload? → answer.2.GivesError)

section

variable {settings : Settings} {route : Route} {payload? : Option Value}
variable {answer : Simulator × Response}

/-- An error settles a request. -/
theorem settled_of_givesError (h : answer.2.GivesError) : Settled settings route payload? answer :=
  ⟨.inr h, fun _ => h⟩

/-- Telling the state settles a request whose data makes sense. -/
theorem settled_of_tellsState (hsense : Request.MakesSense settings route payload?)
    (h : ∃ more, answer.2.TellsState answer.1 more) : Settled settings route payload? answer :=
  ⟨.inl h, fun hno => absurd hsense hno⟩

end

variable {s : Simulator} {words : Int}

/-- Data that is not looked into defeats every request. -/
theorem defeats_of_entries?_eq_none {route : Route} {payload? : Option Value}
    (h : Request.entries? payload? = none) : Defeats route payload? := by
  obtain ⟨v, rfl, htruthy, hmap⟩ := Request.entries?_eq_none_iff.mp h
  exact .noMap htruthy hmap

/-- A request to load is settled unless its data defeats it. -/
theorem settled_answerLoad (hwords : s.settings.Shows words) (payload? : Option Value) :
    (Defeats .load payload? ∧ s.answerLoad payload? = (s, .failure)) ∨
      ¬Defeats .load payload? ∧ Settled s.settings .load payload? (s.answerLoad payload?) := by
  obtain ⟨hnone, hanswer⟩ | ⟨hsome, hprogram, response, herror, hanswer⟩ |
      ⟨source, hprogram, hload⟩ := answerLoad_cases s payload?
  · exact .inl ⟨defeats_of_entries?_eq_none hnone, hanswer⟩
  · refine .inr ⟨fun hdefeats => ?_, settled_of_givesError (by rwa [hanswer])⟩
    cases hdefeats with
    | noMap htruthy hmap =>
        exact hsome (Request.entries?_eq_none_iff.mpr ⟨_, rfl, htruthy, hmap⟩)
    | tooManyDigits hsource _ => cases hprogram.symm.trans hsource
  · -- with a program, nothing but the digit limit can defeat the request
    have hdigits : ∀ result, (s.load source).answer = .ok result → ¬Defeats .load payload? := by
      rintro result hok (⟨htruthy, hmap⟩ | _ | ⟨hsource, hfails⟩)
      · have hnone := Request.entries?_eq_none_iff.mpr ⟨_, rfl, htruthy, hmap⟩
        simp [Request.program?, hnone] at hprogram
      · cases hprogram.symm.trans hsource
        cases (load_of_failsAt s hfails).1.symm.trans hok
    have hshows := shows_perform hwords (.load source)
    obtain ⟨count, hok, hanswer⟩ | ⟨e, response, hok, herror, hanswer⟩ |
      ⟨line, count, hfails, hanswer⟩ := hload
    · refine .inr ⟨hdigits _ hok, settled_of_tellsState ?_ ?_⟩
      · simp [Request.MakesSense, hprogram]
      · rw [hanswer]
        exact ⟨_, tellsState_stateResponse hshows _⟩
    · exact .inr ⟨hdigits _ hok, settled_of_givesError (by rwa [hanswer])⟩
    · exact .inl ⟨.tooManyDigits hprogram hfails, hanswer⟩

/-- A request to run is settled unless its data defeats it. -/
theorem settled_answerRun (hwords : s.settings.Shows words) {limit : Int}
    (hlimit : (Settings.valueOf s.settings.run "max_steps").int? = some limit)
    (payload? : Option Value) :
    (Defeats .run payload? ∧ s.answerRun payload? = (s, .failure)) ∨
      ¬Defeats .run payload? ∧ Settled s.settings .run payload? (s.answerRun payload?) := by
  obtain ⟨hnone, hanswer⟩ | ⟨entries, hentries, hrun⟩ := answerRun_cases s payload?
  · exact .inl ⟨defeats_of_entries?_eq_none hnone, hanswer⟩
  · have hfinite : s.settings.limitFor entries ≠ .error .infinite → ¬Defeats .run payload? := by
      rintro hne (⟨htruthy, hmap⟩ | hinfinite | _)
      · have hnone := Request.entries?_eq_none_iff.mpr ⟨_, rfl, htruthy, hmap⟩
        cases hnone.symm.trans hentries
      · cases hentries
        exact hne ((Settings.limitFor_eq_infinite_iff hlimit).mpr ⟨_, hinfinite⟩)
    obtain ⟨hinfinite, hanswer⟩ | ⟨hno, response, herror, hanswer⟩ |
      ⟨n, result, hn, -, hanswer⟩ := hrun
    · obtain ⟨negative, hgiven⟩ := (Settings.limitFor_eq_infinite_iff hlimit).mp hinfinite
      obtain rfl | rfl := Request.entries?_eq_some_cases hentries
      · exact .inl ⟨.infinite hgiven, hanswer⟩
      · cases hgiven
    · exact .inr ⟨hfinite (by simp [hno]), settled_of_givesError (by rwa [hanswer])⟩
    · refine .inr ⟨hfinite (by simp [hn]), settled_of_tellsState ⟨entries, n, hentries, hn⟩ ?_⟩
      rw [hanswer]
      exact ⟨_, tellsState_stateResponse (shows_run hwords ⟨some n, none, some 0⟩) _⟩

/-- **Which requests to load or to run are answered.** With settings that show some number of words
and limit runs, a `POST` request with any data at all tells the state afterwards or gives an error,
exactly if its data does not defeat it. If it does, the request fails, and nothing changes. If not,
an error is given whenever the data makes no sense: a load without a program, and a run with a limit
that does not stand for an integer. -/
theorem answered_post_iff (s : Simulator) {words limit : Int} (hwords : s.settings.Shows words)
    (hlimit : (Settings.valueOf s.settings.run "max_steps").int? = some limit) {r : Request}
    (hpost : r.IsPost) {route : Route} (hpath : Route.ofPath? r.path = some route)
    (hroute : route = .load ∨ route = .run) :
    let s' := (s.answer r).1
    let response := (s.answer r).2
    (response.Answers s' ↔ ¬Defeats route r.payload?) ∧
    (Defeats route r.payload? → response = .failure ∧ s' = s) ∧
    (¬Defeats route r.payload? → ¬Request.MakesSense s.settings route r.payload? →
      response.GivesError) := by
  have hanswer : s.answer r = s.answerRoute route r.payload? := by
    refine answer_of_isPost hpost hpath ?_
    obtain rfl | rfl := hroute <;> rfl
  have hcases : (Defeats route r.payload? ∧ s.answer r = (s, .failure)) ∨
      ¬Defeats route r.payload? ∧ Settled s.settings route r.payload? (s.answer r) := by
    rw [hanswer]
    obtain rfl | rfl := hroute
    · exact settled_answerLoad hwords r.payload?
    · exact settled_answerRun hwords hlimit r.payload?
  obtain ⟨hdefeats, hfailure⟩ | ⟨hnot, hanswers, herror⟩ := hcases
  · rw [hfailure]
    exact ⟨iff_of_false (Response.not_answers_failure s) (not_not_intro hdefeats),
      fun _ => ⟨rfl, rfl⟩, fun h => absurd hdefeats h⟩
  · exact ⟨iff_of_true hanswers hnot, fun h => absurd h hnot, fun _ => herror⟩

/-- A request to run with a limit that is no numeral gives an error. -/
theorem answered_post_iff_four :
    ∃ s, create .builtIn none = .ok s ∧
      let r : Request := ⟨"POST", "/run", some (.map [("max_steps", .text "four")])⟩
      ¬Defeats .run r.payload? ∧ (s.answer r).2.Answers (s.answer r).1 ∧
        (s.answer r).2.GivesError := by
  obtain ⟨s, hcreate⟩ : ∃ s, create .builtIn none = .ok s := ⟨_, rfl⟩
  refine ⟨s, hcreate, ?_⟩
  intro r
  have hsettings : s.settings = .builtIn := by
    cases hcreate
    rfl
  have hwords : s.settings.Shows 16 := by
    rw [hsettings]
    rfl
  have hlimit : (Settings.valueOf s.settings.run "max_steps").int? = some 10000 := by
    rw [hsettings]
    rfl
  have hpost : r.IsPost := by decide +kernel
  have hpath : Route.ofPath? r.path = some .run := by decide +kernel
  obtain ⟨hanswers, -, herror⟩ := answered_post_iff s hwords hlimit hpost hpath (.inr rfl)
  have hnot : ¬Defeats .run r.payload? := by
    rintro (⟨-, hmap⟩ | hinfinite | _)
    · exact hmap _ rfl
    · cases hinfinite
  have hno : ¬Request.MakesSense s.settings .run r.payload? := by
    rintro ⟨entries, limit, hentries, hlimit⟩
    cases hentries
    cases hlimit
  exact ⟨hnot, hanswers.mpr hnot, herror hnot hno⟩

/-- A request to load with data that is no map, and a request to run with an infinite limit, fail:
they are answered with neither 200 nor 400. -/
theorem not_answered_list_and_infinite :
    ∃ s, create .builtIn none = .ok s ∧
      let listed := Request.payloadOf "application/json".toList "[1]".toList
      let endless := Request.payloadOf "application/json".toList
        "\x7b\"max_steps\": Infinity\x7d".toList
      (s.answer ⟨"POST", "/load", listed⟩).2.status = 500 ∧
      (s.answer ⟨"POST", "/run", endless⟩).2.status = 500 := by
  obtain ⟨s, hcreate⟩ : ∃ s, create .builtIn none = .ok s := ⟨_, rfl⟩
  refine ⟨s, hcreate, ?_⟩
  cases hcreate
  decide +kernel

end Simulator

end Monocycle
