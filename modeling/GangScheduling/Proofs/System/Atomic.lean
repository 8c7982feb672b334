import GangScheduling.Proofs.System.Frame

set_option autoImplicit false

namespace GangScheduling

namespace Application

structure TakesRoute (app : Application) (kind : EventKind) (after : Application) : Prop where
  route : Lifecycle.next app.state kind = some after.state
  frame : after = { app with state := after.state, tasks := after.tasks }
  tasks : List.Forall₂ Task.Kept app.tasks.toList after.tasks.toList

variable {app after : Application} {event : ApplicationEvent} {effects : List Effect}

theorem takesRoute_of_handle (handled : app.handle event = .ok (after, effects)) :
    app.TakesRoute event.kind after where
  route := (handle_ok handled).1
  frame := by
    obtain ⟨state, tasks, same⟩ := handle_frame handled
    rw [same]
  tasks := kept_handle handled

theorem canHandle_iff_rule (app : Application) (kind : EventKind) :
    app.canHandle kind = true ↔
      ∃ rule ∈ Lifecycle.rules, rule.event = kind ∧ app.state ∈ rule.sources := by
  simp [canHandle, Option.isSome_iff_exists, Lifecycle.next_iff_rule]

end Application

namespace System

variable {s : System} {holder : Holder} {app after : Application} {event : ApplicationEvent}
  {effects : List Effect}

theorem find?_apply (found : s.find? holder = some app) (sameId : after.id = app.id) :
    (s.apply holder (after, effects)).find? holder = some after := by
  cases holder with
  | registered id =>
    rw [registered_apply, registered_put found sameId found, if_pos rfl]
  | apart index =>
    have taken : s.apart[index]? = some app := found
    exact List.getElem?_set_self (List.getElem?_eq_some_iff.mp taken).1

theorem step_handle_legal (found : s.find? holder = some app)
    (handled : app.handle event = .ok (after, effects)) :
    s.step (.handle holder event) = s.apply holder (after, effects) ∧
      (s.step (.handle holder event)).find? holder = some after := by
  have same : s.step (.handle holder event) = s.apply holder (after, effects) := by
    simp [step, handle, found, handled]
  rw [same]
  exact ⟨rfl, find?_apply found (Application.handle_ok handled).2.1⟩

theorem step_handle_illegal (found : s.find? holder = some app)
    (illegal : app.canHandle event.kind = false) : s.step (.handle holder event) = s := by
  simp [step, handle, found, Application.handle_of_illegal illegal]

theorem deliver_illegal {m : ResourceManager}
    (found : m.registry.find? event.application = some app)
    (illegal : app.canHandle event.kind = false) :
    m.handle event = .error (.invalidTransition event.kind app.state) ∧
      m.deliver (.application event) =
        m.note [.eventFailed event.application event.kind
          (.invalidTransition event.kind app.state)] := by
  have refused : m.handle event = .error (.invalidTransition event.kind app.state) := by
    simp [ResourceManager.handle, Registry.lookup, found, Application.handle_of_illegal illegal]
  exact ⟨refused, by simp [ResourceManager.deliver, refused]⟩

theorem handle_atomic (app : Application) (event : ApplicationEvent) :
    (app.canHandle event.kind = true ↔
      ∃ rule ∈ Lifecycle.rules, rule.event = event.kind ∧ app.state ∈ rule.sources) ∧
    ((∃ after effects, app.canHandle event.kind = true ∧
        app.handle event = .ok (after, effects) ∧ app.TakesRoute event.kind after ∧
        ∀ s holder, find? s holder = some app →
          s.step (.handle holder event) = s.apply holder (after, effects) ∧
          (s.step (.handle holder event)).find? holder = some after) ∨
      (app.canHandle event.kind = false ∧
        app.handle event = .error (.invalidTransition event.kind app.state) ∧
        (∀ s holder, find? s holder = some app → s.step (.handle holder event) = s) ∧
        ∀ m : ResourceManager, m.registry.find? event.application = some app →
          m.handle event = .error (.invalidTransition event.kind app.state) ∧
          m.deliver (.application event) =
            m.note [.eventFailed event.application event.kind
              (.invalidTransition event.kind app.state)])) := by
  refine ⟨app.canHandle_iff_rule event.kind, ?_⟩
  cases legal : app.canHandle event.kind with
  | true =>
    obtain ⟨after, effects, handled⟩ := Application.handle_of_canHandle legal
    exact .inl ⟨after, effects, rfl, handled, Application.takesRoute_of_handle handled,
      fun s holder found => step_handle_legal found handled⟩
  | false =>
    exact .inr ⟨rfl, Application.handle_of_illegal legal,
      fun s holder found => step_handle_illegal found legal,
      fun m found => deliver_illegal found legal⟩

end System

end GangScheduling
