import GangScheduling.Application.Handle

set_option autoImplicit false

namespace GangScheduling

namespace Application

def afterAccepted (app : Application) : ApplicationEvent :=
  { application := app.id
    kind := if Gang.shouldReserve app.groups (app.tasks.inState .allocated).length then .tryReserve
      else .run }

def start (app : Application) (task : Task) : Effect :=
  match task.readiness with
  | .ok () => .dispatch (.task { application := app.id, task := task.id })
  | .error fault => .record
      { pod := task.pod
        severity := .warning
        reason := "FailedScheduling"
        message := fault.message }

def eligible (app : Application) : List Task :=
  (app.tasks.oldestFirst .new).filter fun task => Gang.maySchedule app.state task.placeholder

def schedule (app : Application) : Application × List Effect :=
  match app.state with
  | .new =>
    match app.handle (.submit app.id) with
    | .ok result => result
    | .error fault => (app, [.note (.submitIllegal app.id fault)])
  | .accepted => (app, [.dispatch (.application app.afterAccepted)])
  | .reserving | .running => (app, app.eligible.map app.start)
  | _ => (app, [])

end Application

end GangScheduling
