import Mathlib.Data.List.Permutation
import Mathlib.Data.Set.List
import Nomenclator.Command.Status
import Nomenclator.Proofs.Analysis.Escapes

/-!
# What a list of models is taken for

A server lists its models as tables with names. Other items are passed over, and so is a text or a
table in place of the list. Anything else in its place, or a name that is no text, is not provided
for, and the status command ends without a report.
-/

namespace Nomenclator

namespace Service

open Json

/-! ## Shapes -/

/-- A list in which no table has a name that is no text, or else a text or a table. -/
def IsModelList : Value → Prop
  | .list items => ∀ fields name, .table fields ∈ items →
    Entries.get? "name" fields = some name → ∃ t, name = .text t
  | .text _ | .table _ => True
  | _ => False

/-- What the body of a reply gives as models, if it gives any, is a list of them. -/
def ListsModels (body : Text) : Prop :=
  ∀ entries models, decode body = .ok (.table entries) →
    Entries.get? "models" entries = some models → IsModelList models

/-! ## Names -/

theorem exists_map_text_iff {values : List Value} :
    (∃ texts : List Text, values = texts.map .text) ↔ ∀ value ∈ values, ∃ t, value = .text t := by
  have hrange := Set.ext_iff.1 (Set.range_list_map Value.text) values
  simpa [eq_comm] using hrange

theorem mapM_asText?_map (texts : List Text) :
    (texts.map Value.text).mapM Value.asText? = some texts := by
  induction texts with
  | nil => rfl
  | cons t rest ih =>
    rw [List.map_cons, List.mapM_cons, ih]
    rfl

theorem exists_map_text_of_mapM {values : List Value} {texts : List Text}
    (h : values.mapM Value.asText? = some texts) : values = texts.map .text := by
  induction values generalizing texts with
  | nil =>
    obtain rfl : [] = texts := by simpa using h
    rfl
  | cons value rest ih =>
    rw [List.mapM_cons] at h
    obtain ⟨t, ht, h⟩ := Option.bind_eq_some_iff.1 h
    obtain ⟨more, hmore, h⟩ := Option.bind_eq_some_iff.1 h
    obtain rfl : t :: more = texts := by simpa using h
    obtain rfl : value = .text t := by
      cases value <;> simp_all [Value.asText?]
    rw [ih hmore, List.map_cons]

theorem mapM_asText?_eq_none {values : List Value}
    (h : ¬∃ texts : List Text, values = texts.map .text) : values.mapM Value.asText? = none :=
  Option.eq_none_iff_forall_ne_some.2 fun texts htexts => h ⟨texts, exists_map_text_of_mapM htexts⟩

/-- The names of the tables among `items`. -/
def namesIn (items : List Value) : List Value :=
  items.filterMap fun
    | .table fields => Entries.get? "name" fields
    | _ => none

theorem mem_namesIn {items : List Value} {name : Value} :
    name ∈ namesIn items ↔
      ∃ fields, .table fields ∈ items ∧ Entries.get? "name" fields = some name := by
  rw [namesIn, List.mem_filterMap]
  constructor
  · rintro ⟨item, hitem, hname⟩
    cases item with
    | table fields => exact ⟨fields, hitem, hname⟩
    | _ => simp at hname
  · rintro ⟨fields, hfields, hname⟩
    exact ⟨.table fields, hfields, hname⟩

theorem isModelList_list_iff {items : List Value} :
    IsModelList (.list items) ↔ ∃ texts : List Text, namesIn items = texts.map .text := by
  rw [exists_map_text_iff, IsModelList]
  constructor
  · intro h name hname
    obtain ⟨fields, hfields, hget⟩ := mem_namesIn.1 hname
    exact h fields name hfields hget
  · exact fun h fields name hfields hget => h name (mem_namesIn.2 ⟨fields, hfields, hget⟩)

/-! ## Bodies -/

variable {body : Text} {entries : Entries Value}

theorem listsModels_of_no_table (h : ∀ entries, decode body ≠ .ok (.table entries)) :
    ListsModels body := fun entries _ hentries _ => absurd hentries (h entries)

theorem listsModels_of_none (hbody : decode body = .ok (.table entries))
    (hnone : Entries.get? "models" entries = none) : ListsModels body := by
  intro entries' models hentries hmodels
  obtain rfl : entries = entries' := by simpa using hbody.symm.trans hentries
  simp [hnone] at hmodels

theorem listsModels_iff {models : Value} (hbody : decode body = .ok (.table entries))
    (hmodels : Entries.get? "models" entries = some models) :
    ListsModels body ↔ IsModelList models := by
  refine ⟨fun h => h entries models hbody hmodels, fun h entries' models' hentries hmodels' => ?_⟩
  obtain rfl : entries = entries' := by simpa using hbody.symm.trans hentries
  obtain rfl : models = models' := by simpa using hmodels.symm.trans hmodels'
  exact h

/-- What becomes of a body: names that are texts, a failure, names that are not all texts, or no
names at all. -/
inductive Listing (body : Text) : Except Halt (List Value) → Prop
  | named (names : List Text) (h : ListsModels body) : Listing body (.ok (names.map .text))
  | failed (failure : ServiceFailure) (h : ListsModels body) :
    Listing body (.error (.failed (.service failure)))
  | unnamed {names : List Value} (h : ¬ListsModels body)
      (hnames : ¬∃ texts : List Text, names = texts.map .text) : Listing body (.ok names)
  | unlisted (h : ¬ListsModels body) : Listing body (.error (.escaped .wrongType))

theorem listing_models {models : Value} (hbody : decode body = .ok (.table entries))
    (hmodels : Entries.get? "models" entries = some models) :
    Listing body ((modelNames (.table entries)).mapError .escaped) := by
  have hlists := listsModels_iff hbody hmodels
  rw [modelNames, hmodels, Option.getD_some]
  cases models with
  | list items =>
    by_cases h : IsModelList (.list items)
    · obtain ⟨texts, htexts⟩ := isModelList_list_iff.1 h
      change Listing body (.ok (namesIn items))
      rw [htexts]
      exact .named texts (hlists.2 h)
    · exact .unnamed (mt hlists.1 h) (mt isModelList_list_iff.2 h)
  | text t => exact .named [] (hlists.2 trivial)
  | table fields => exact .named [] (hlists.2 trivial)
  | null => exact .unlisted hlists.1
  | boolean b => exact .unlisted hlists.1
  | integer n => exact .unlisted hlists.1
  | real x => exact .unlisted hlists.1
  | moment m => exact .unlisted hlists.1

theorem listing_modelsIn (hdepth : decode body ≠ .error .tooDeep) (address : Text) :
    Listing body (modelsIn address body) := by
  unfold modelsIn
  cases hbody : decode body with
  | error stop =>
    have hstop : stop ≠ .tooDeep := by
      rintro rfl
      exact hdepth hbody
    obtain ⟨cause, hcause⟩ :=
      halt_eq_failed hstop body fun cause => .service (.unreadableModels address cause)
    dsimp only
    rw [hcause]
    exact .failed _ (listsModels_of_no_table (by simp [hbody]))
  | ok value =>
    dsimp only
    cases value with
    | table entries =>
      cases hmodels : Entries.get? "models" entries with
      | some models => exact listing_models hbody hmodels
      | none =>
        rw [modelNames, hmodels]
        exact .named [] (listsModels_of_none hbody hmodels)
    | _ => exact .named [] (listsModels_of_no_table (by simp [hbody]))

theorem listModels_accepted {settings : Settings} {address : Text} {response : Response}
    (hurl : url settings tagsEndpoint = .ok address) (haccepted : response.isAccepted = true) :
    (listModels settings (.response response)).result = modelsIn address response.body := by
  rw [listModels, hurl]
  simp [receive, haccepted]

end Service

/-! ## The status command -/

namespace Command.Status

open Json Service

/-- With an exit code, or with a line that cannot be shown. -/
def EndsOrderly (ending : Ending) : Prop :=
  (∃ code, ending = .exit code) ∨ ∃ error, ending = .escaped (.unshowable error)

theorem EndsOrderly.ne_wrongType {ending : Ending} (h : EndsOrderly ending) :
    ending ≠ .escaped .wrongType := by
  rcases h with ⟨code, rfl⟩ | ⟨error, rfl⟩ <;> simp

theorem not_endsOrderly_wrongType : ¬EndsOrderly (.escaped .wrongType) :=
  fun h => h.ne_wrongType rfl

theorem endsOrderly_sayThen {goOn : Run → Ending × Run} (h : ∀ run, EndsOrderly (goOn run).1)
    (run : Run) (showing : Console.Showing) : EndsOrderly (run.sayThen showing goOn).1 := by
  unfold Run.sayThen
  cases showing.stop with
  | none => exact h _
  | some error => exact .inr ⟨error, rfl⟩

theorem endsOrderly_conclude (width : Nat) (model : Text) (names : List Text) (run : Run) :
    EndsOrderly (conclude width model (names.map .text) run).1 := by
  rw [conclude, mapM_asText?_map]
  refine endsOrderly_sayThen (fun run => ?_) _ _
  split <;> exact endsOrderly_sayThen (fun _ => .inl ⟨_, rfl⟩) _ _

variable {settings : Settings} {response : Response}

theorem ask_of_listing (width : Nat) (model : Text) (run : Run)
    (hreply : run.replies.headD (Service.backend settings).silence = .response response)
    (h : Listing response.body (listModels settings (.response response)).result) :
    EndsOrderly (ask settings width model run).1 ∧ ListsModels response.body ∨
      (ask settings width model run).1 = .escaped .wrongType ∧ ¬ListsModels response.body := by
  unfold ask
  rw [hreply]
  dsimp only
  generalize listModels settings (.response response) = exchange at h ⊢
  obtain ⟨result, calls, log⟩ := exchange
  dsimp only at h ⊢
  cases h with
  | named names hlists => exact .inl ⟨endsOrderly_conclude width model names _, hlists⟩
  | failed failure hlists => exact .inl ⟨endsOrderly_sayThen (fun _ => .inl ⟨_, rfl⟩) _ _, hlists⟩
  | unnamed hlists hnames =>
    refine .inr ⟨?_, hlists⟩
    dsimp only
    unfold conclude
    rw [mapM_asText?_eq_none hnames]
  | unlisted hlists => exact .inr ⟨rfl, hlists⟩

theorem listing_isUsable_iff {body : Text} {result : Except Halt (List Value)}
    (h : Listing body result) :
    ((∃ names : List Text, result = .ok (names.map .text)) ∨
      ∃ failure, result = .error (.failed (.service failure))) ↔ ListsModels body := by
  cases h with
  | named names hlists => exact iff_of_true (.inl ⟨names, rfl⟩) hlists
  | failed failure hlists => exact iff_of_true (.inr ⟨failure, rfl⟩) hlists
  | unnamed hlists hnames => exact iff_of_false (by simpa using hnames) hlists
  | unlisted hlists => exact iff_of_false (by simp) hlists

/-- A body that was accepted and is not nested too deep gives names that are texts, or a failure of
the service, just when what it has for models is a list of them. The status command ends in order
just then, and otherwise with a value of the wrong type. -/
theorem models_outcome_iff (settings : Settings) (address : Text) (response : Response)
    (hurl : url settings tagsEndpoint = .ok address) (haccepted : response.isAccepted = true)
    (hdepth : decode response.body ≠ .error .tooDeep) :
    (((∃ names : List Text,
        (listModels settings (.response response)).result = .ok (names.map .text)) ∨
      ∃ failure, (listModels settings (.response response)).result =
        .error (.failed (.service failure))) ↔ ListsModels response.body) ∧
    ∀ width model (run : Run) rest,
      (EndsOrderly
          (ask settings width model { run with replies := .response response :: rest }).1 ↔
        ListsModels response.body) ∧
      ((ask settings width model { run with replies := .response response :: rest }).1 =
          .escaped .wrongType ↔ ¬ListsModels response.body) := by
  have hlisting : Listing response.body (listModels settings (.response response)).result := by
    rw [listModels_accepted hurl haccepted]
    exact listing_modelsIn hdepth address
  refine ⟨listing_isUsable_iff hlisting, fun width model run rest => ?_⟩
  rcases ask_of_listing width model { run with replies := .response response :: rest } rfl
    hlisting with ⟨hends, hlists⟩ | ⟨hends, hlists⟩
  · exact ⟨iff_of_true hends hlists, iff_of_false hends.ne_wrongType (not_not.2 hlists)⟩
  · rw [hends]
    exact ⟨iff_of_false not_endsOrderly_wrongType hlists, iff_of_true rfl hlists⟩

/-! ## Lists -/

def replyWith (body : Text) : Response := ⟨200, some "OK", body⟩

/-- A run that asks for the model `a` and gets `body` for an answer. -/
def askWith (body : Text) : Ending :=
  (ask .default 80 "a" ⟨.empty, [.response (replyWith body)], [], [], []⟩).1

def oneModel : Text := "\x7b\"models\": [\x7b\"name\": \"a\"\x7d, 1]\x7d"

def nullModels : Text := "\x7b\"models\": null\x7d"

def numberModels : Text := "\x7b\"models\": [\x7b\"name\": 1\x7d]\x7d"

theorem url_default : url .default tagsEndpoint = .ok "http://127.0.0.1:11434/api/tags" := rfl

/-- A list with one name, and an item that has none. -/
theorem models_outcome_one :
    (replyWith oneModel).isAccepted = true ∧ decode oneModel ≠ .error .tooDeep ∧
      ListsModels oneModel ∧ EndsOrderly (askWith oneModel) := by
  have hbody : decode oneModel =
      .ok (.table [("models", .list [.table [("name", .text "a")], .integer 1])]) := by cbv
  have hdepth : decode oneModel ≠ .error .tooDeep := by simp [hbody]
  have hresult : (listModels .default (.response (replyWith oneModel))).result =
      .ok [.text "a"] := by
    rw [listModels_accepted url_default (by decide)]
    cbv
  have houtcome := models_outcome_iff .default _ (replyWith oneModel) url_default (by decide) hdepth
  have hlists : ListsModels oneModel := houtcome.1.1 (.inl ⟨["a"], hresult⟩)
  exact ⟨by decide, hdepth, hlists, (houtcome.2 80 "a" ⟨.empty, [], [], [], []⟩ []).1.2 hlists⟩

/-- No list at all, and one with a number for a name. -/
theorem models_null_number :
    (listModels .default (.response (replyWith nullModels))).result =
        .error (.escaped .wrongType) ∧
      (listModels .default (.response (replyWith numberModels))).result = .ok [.integer 1] ∧
      askWith nullModels = .escaped .wrongType ∧ askWith numberModels = .escaped .wrongType := by
  have hnull : (listModels .default (.response (replyWith nullModels))).result =
      .error (.escaped .wrongType) := by
    rw [listModels_accepted url_default (by decide)]
    cbv
  have hnumber : (listModels .default (.response (replyWith numberModels))).result =
      .ok [.integer 1] := by
    rw [listModels_accepted url_default (by decide)]
    cbv
  refine ⟨hnull, hnumber, ?_, ?_⟩
  · unfold askWith ask
    dsimp only [List.headD_cons]
    rw [hnull]
  · unfold askWith ask
    dsimp only [List.headD_cons]
    rw [hnumber]
    rfl

end Command.Status

end Nomenclator
