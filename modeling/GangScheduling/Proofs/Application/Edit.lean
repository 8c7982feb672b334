import GangScheduling.Application

set_option autoImplicit false

namespace GangScheduling

inductive Edit
  | addTask (task : Task)
  | removeTask (id : String)
  | changeTasks (change : Task → Task)
  | setGroups (groups : List TaskGroup)
  | setPolicy (policy : SchedulingPolicy)
  | setOwners (owners : List OwnerReference)
  | setTimeout (seconds : Int64)

def Application.edit (app : Application) : Edit → Application
  | .addTask task => app.addTask task
  | .removeTask id => (app.removeTask id).toOption.getD app
  | .changeTasks change => app.modifyTasks change
  | .setGroups groups => app.setGroups groups
  | .setPolicy policy => { app with policy }
  | .setOwners owners => { app with owners }
  | .setTimeout timeoutSeconds => { app with timeoutSeconds }

theorem Application.edit_removeTask (app : Application) (id : String) :
    ∃ tasks, app.edit (.removeTask id) = { app with tasks } := by
  simp only [edit, removeTask]
  split <;> exact ⟨_, rfl⟩

theorem Application.edit_frame (app : Application) (edit : Edit) :
    (app.edit edit).id = app.id ∧ (app.edit edit).state = app.state := by
  cases edit with
  | removeTask id =>
    obtain ⟨tasks, same⟩ := app.edit_removeTask id
    rw [same]
    exact ⟨rfl, rfl⟩
  | _ => exact ⟨rfl, rfl⟩

end GangScheduling
