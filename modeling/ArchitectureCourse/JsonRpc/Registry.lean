import ArchitectureCourse.Json
import ArchitectureCourse.Support.Decimal
import ArchitectureCourse.Support.Maps

/-!
# The method registry

`JsonRpc::MethodRegistry` maps method names to `MethodInfo` records and keeps a
catalog of error texts under the string key `to_string(code) + "_" + language`.
`GetErrorMessage` falls back from the requested language to `en-US`, and from there
to the text `"Unknown error"`.

The handlers a registry holds close over state of their own, as
`SecretDataManager::data_store_`.  A handler is therefore a function of the request
parameters, the request language and that state `σ`, and it returns the new state
together with the value it returned or the exception it threw.
-/

namespace ArchitectureCourse.JsonRpc

/-- `JsonRpcError`: a code, a message, and `data`, which is `nullptr` when absent. -/
structure JsonRpcError where
  code : Int
  message : String
  data : Json := .null
  deriving Repr

namespace Errors

/-- `Errors::ParseError`. -/
def ParseError : JsonRpcError := ⟨-32700, "Parse error", .null⟩

/-- `Errors::InvalidRequest`. -/
def InvalidRequest : JsonRpcError := ⟨-32600, "Invalid Request", .null⟩

/-- `Errors::MethodNotFound`. -/
def MethodNotFound : JsonRpcError := ⟨-32601, "Method not found", .null⟩

/-- `Errors::InvalidParams`. -/
def InvalidParams : JsonRpcError := ⟨-32602, "Invalid params", .null⟩

/-- `Errors::InternalError`. -/
def InternalError : JsonRpcError := ⟨-32603, "Internal error", .null⟩

end Errors

/-- What leaves a call other than a value: a thrown `JsonRpcError`, or another
`std::exception`, known by its `what()` text. -/
inductive Thrown where
  | rpcError (error : JsonRpcError)
  | exception (what : String)
  deriving Repr

/-- `MethodHandler`, over the state `σ` that the handlers own. -/
abbrev MethodHandler (σ : Type) := Json → String → σ → Except Thrown Json × σ

/-- `MethodInfo`.  Its description, schemas and `allowed_errors` are never read by
the server and are left out. -/
structure MethodInfo (σ : Type) where
  name : String
  handler : MethodHandler σ

/-- `MethodRegistry`: `methods_` and `error_messages_`, both maps keyed by strings. -/
structure MethodRegistry (σ : Type) where
  methods : AList (fun _ : String => MethodInfo σ)
  errorMessages : AList (fun _ : String => String)

namespace MethodRegistry

variable {σ : Type} (registry : MethodRegistry σ)

/-- `default_language_`, which keeps its initializer. -/
def defaultLanguage : String := "en-US"

/-- The catalog key `std::to_string(code) + "_" + language`. -/
def errorKey (code : Int) (language : String) : String :=
  toString code ++ "_" ++ language

/-- `RegisterMethod`: insert, or replace the method of the same name. -/
def registerMethod (method : MethodInfo σ) : MethodRegistry σ :=
  { registry with methods := registry.methods.insert method.name method }

/-- `HasMethod`. -/
def hasMethod (name : String) : Bool :=
  (registry.methods.lookup name).isSome

/-- `GetMethod`, which throws `std::runtime_error` for an unknown name. -/
def getMethod (name : String) : Except String (MethodInfo σ) :=
  match registry.methods.lookup name with
  | some method => .ok method
  | none => .error ("Method not found: " ++ name)

/-- `SetErrorMessage`. -/
def setErrorMessage (code : Int) (language message : String) : MethodRegistry σ :=
  { registry with errorMessages := registry.errorMessages.insert (errorKey code language) message }

/-- `GetErrorMessage`: the requested language, then the default one, then a fixed text. -/
def getErrorMessage (code : Int) (language : String) : String :=
  match registry.errorMessages.lookup (errorKey code language) with
  | some message => message
  | none =>
    match registry.errorMessages.lookup (errorKey code defaultLanguage) with
    | some message => message
    | none => "Unknown error"

/-- `GetMethodNames`. -/
def getMethodNames : List String :=
  registry.methods.keys

/-- The constructor: no methods, and the texts of the standard errors in `en-US` and
`ru-RU`. -/
def init : MethodRegistry σ :=
  (⟨∅, ∅⟩ : MethodRegistry σ)
    |>.setErrorMessage Errors.ParseError.code "en-US" "Parse error"
    |>.setErrorMessage Errors.InvalidRequest.code "en-US" "Invalid Request"
    |>.setErrorMessage Errors.MethodNotFound.code "en-US" "Method not found"
    |>.setErrorMessage Errors.InvalidParams.code "en-US" "Invalid params"
    |>.setErrorMessage Errors.InternalError.code "en-US" "Internal error"
    |>.setErrorMessage Errors.ParseError.code "ru-RU" "Ошибка разбора"
    |>.setErrorMessage Errors.InvalidRequest.code "ru-RU" "Неверный запрос"
    |>.setErrorMessage Errors.MethodNotFound.code "ru-RU" "Метод не найден"
    |>.setErrorMessage Errors.InvalidParams.code "ru-RU" "Неверные параметры"
    |>.setErrorMessage Errors.InternalError.code "ru-RU" "Внутренняя ошибка"

example : (init : MethodRegistry Unit).getErrorMessage (-32601) "fr-FR" = "Method not found" := by
  decide

/-! ## The catalog -/

/-- A separator that occurs in neither prefix splits both lists at the same place. -/
theorem eq_of_append_cons_eq {α : Type} {sep : α} {a₁ a₂ b₁ b₂ : List α} (h₁ : sep ∉ a₁)
    (h₂ : sep ∉ a₂) (h : a₁ ++ sep :: b₁ = a₂ ++ sep :: b₂) : a₁ = a₂ ∧ b₁ = b₂ := by
  induction a₁ generalizing a₂ with
  | nil =>
    cases a₂ with
    | nil => simpa using h
    | cons y a₂ =>
      simp only [List.nil_append, List.cons_append, List.cons.injEq] at h
      exact absurd (h.1 ▸ List.mem_cons_self _ _) h₂
  | cons x a₁ ih =>
    cases a₂ with
    | nil =>
      simp only [List.nil_append, List.cons_append, List.cons.injEq] at h
      exact absurd (h.1 ▸ List.mem_cons_self _ _) h₁
    | cons y a₂ =>
      simp only [List.cons_append, List.cons.injEq] at h
      obtain ⟨rfl, h⟩ := h
      obtain ⟨rfl, rfl⟩ := ih (fun hm => h₁ (List.mem_cons_of_mem _ hm))
        (fun hm => h₂ (List.mem_cons_of_mem _ hm)) h
      exact ⟨rfl, rfl⟩

/-- The catalog key names its pair: the text of an `int` holds no `_`, so the first `_`
of a key ends the code. -/
theorem errorKey_injective {code code' : Int} {language language' : String}
    (h : errorKey code language = errorKey code' language') : code = code' ∧ language = language' := by
  have hdata : (toString code).data ++ ['_'] ++ language.data =
      (toString code').data ++ ['_'] ++ language'.data := congrArg String.data h
  simp only [List.append_assoc, List.singleton_append] at hdata
  have hsep : ∀ n : Int, '_' ∉ (toString n).data := fun n hn =>
    (isDigit_of_mem_toString hn).elim (absurd · (by decide)) (absurd · (by decide))
  obtain ⟨hc, hl⟩ := eq_of_append_cons_eq (hsep code) (hsep code') hdata
  exact ⟨toString_int_injective (String.ext hc), String.ext hl⟩

/-- `SetErrorMessage` changes the stored text of its own pair and of no other. -/
theorem lookup_setErrorMessage (code' : Int) (language' message : String) (code : Int)
    (language : String) :
    (registry.setErrorMessage code' language' message).errorMessages.lookup (errorKey code language) =
      if code' = code ∧ language' = language then some message
      else registry.errorMessages.lookup (errorKey code language) := by
  split_ifs with h
  · obtain ⟨rfl, rfl⟩ := h
    simp [setErrorMessage]
  · have hne : errorKey code language ≠ errorKey code' language' := fun he =>
      h ⟨(errorKey_injective he).1.symm, (errorKey_injective he).2.symm⟩
    simp [setErrorMessage, AList.lookup_insert_ne hne]

/-- `GetErrorMessage` as one expression: the pair's text, else the code's `en-US` text,
else `"Unknown error"`. -/
theorem getErrorMessage_eq (code : Int) (language : String) :
    registry.getErrorMessage code language =
      ((registry.errorMessages.lookup (errorKey code language)).or
        (registry.errorMessages.lookup (errorKey code defaultLanguage))).getD "Unknown error" := by
  unfold getErrorMessage
  cases registry.errorMessages.lookup (errorKey code language) <;>
    cases registry.errorMessages.lookup (errorKey code defaultLanguage) <;> rfl

/-- `SetErrorMessage` for each `(code, language, message)` of `texts` in turn. -/
def setErrorMessages (texts : List (Int × String × String)) : MethodRegistry σ :=
  texts.foldl (fun r t => r.setErrorMessage t.1 t.2.1 t.2.2) registry

/-- The texts the constructor sets, in its order. -/
def initTexts : List (Int × String × String) :=
  [(Errors.ParseError.code, "en-US", "Parse error"),
    (Errors.InvalidRequest.code, "en-US", "Invalid Request"),
    (Errors.MethodNotFound.code, "en-US", "Method not found"),
    (Errors.InvalidParams.code, "en-US", "Invalid params"),
    (Errors.InternalError.code, "en-US", "Internal error"),
    (Errors.ParseError.code, "ru-RU", "Ошибка разбора"),
    (Errors.InvalidRequest.code, "ru-RU", "Неверный запрос"),
    (Errors.MethodNotFound.code, "ru-RU", "Метод не найден"),
    (Errors.InvalidParams.code, "ru-RU", "Неверные параметры"),
    (Errors.InternalError.code, "ru-RU", "Внутренняя ошибка")]

theorem init_eq_setErrorMessages : (init : MethodRegistry σ) = setErrorMessages ⟨∅, ∅⟩ initTexts :=
  rfl

/-- The message of the last of `texts` that sets `(code, language)`. -/
def lastText (texts : List (Int × String × String)) (code : Int) (language : String) :
    Option String :=
  (texts.reverse.find? fun t => t.1 = code ∧ t.2.1 = language).map (·.2.2)

/-- What `GetErrorMessage` should answer once the catalog holds the calls `texts` and
nothing else: the last text set for the pair, else the last one set for the code in
`en-US`, else `"Unknown error"`. -/
def catalogText (texts : List (Int × String × String)) (code : Int) (language : String) : String :=
  ((lastText texts code language).or (lastText texts code "en-US")).getD "Unknown error"

/-- After a run of `SetErrorMessage`, a pair holds the text of its last call, or what it
held before. -/
theorem lookup_setErrorMessages (texts : List (Int × String × String)) (code : Int)
    (language : String) :
    (registry.setErrorMessages texts).errorMessages.lookup (errorKey code language) =
      (lastText texts code language).or (registry.errorMessages.lookup (errorKey code language)) := by
  induction texts generalizing registry with
  | nil => simp [setErrorMessages, lastText]
  | cons t texts ih =>
    have hstep : registry.setErrorMessages (t :: texts) =
        (registry.setErrorMessage t.1 t.2.1 t.2.2).setErrorMessages texts := rfl
    rw [hstep, ih, lookup_setErrorMessage]
    simp only [lastText, List.reverse_cons, List.find?_append, List.find?_singleton]
    cases texts.reverse.find? (fun t => t.1 = code ∧ t.2.1 = language) <;>
      by_cases hc : t.1 = code ∧ t.2.1 = language <;> simp [hc]

/-- The catalog of a registry after the constructor and any run of `SetErrorMessage`
calls, with any codes and any languages: `GetErrorMessage` answers the last text set for
the pair, else the last one set for the code in `en-US`, else `"Unknown error"`, where
the constructor's ten texts count as the first calls of the run.  A call changes the
stored text of its own pair only. -/
theorem getErrorMessage_setErrorMessages :
    (∀ (texts : List (Int × String × String)) (code : Int) (language : String),
      ((init : MethodRegistry σ).setErrorMessages texts).getErrorMessage code language =
        catalogText (initTexts ++ texts) code language) ∧
    (∀ (registry : MethodRegistry σ) (code' : Int) (language' message : String) (code : Int)
        (language : String), (code', language') ≠ (code, language) →
      (registry.setErrorMessage code' language' message).errorMessages.lookup (errorKey code language) =
        registry.errorMessages.lookup (errorKey code language)) := by
  refine ⟨fun texts code language => ?_, fun registry code' language' message code language hne => ?_⟩
  · have hrun : (init : MethodRegistry σ).setErrorMessages texts =
        setErrorMessages ⟨∅, ∅⟩ (initTexts ++ texts) := by
      rw [init_eq_setErrorMessages]
      exact (List.foldl_append _ _ _ _).symm
    simp only [getErrorMessage_eq, hrun, lookup_setErrorMessages, AList.lookup_empty,
      Option.or_none, catalogText, defaultLanguage]
  · rw [lookup_setErrorMessage, if_neg fun h => hne (Prod.ext h.1 h.2)]

/-- Run from the constructor, the catalog already holds the constructor's texts: with no
call at all, `MethodNotFound` has its `en-US` text, where a rule that counts only the
calls made after the constructor finds no text and answers `"Unknown error"`. -/
theorem getErrorMessage_init_methodNotFound :
    ((init : MethodRegistry Unit).setErrorMessages []).getErrorMessage (-32601) "en-US" =
        "Method not found" ∧
      catalogText [] (-32601) "en-US" = "Unknown error" :=
  ⟨by decide, rfl⟩

end MethodRegistry

end ArchitectureCourse.JsonRpc
