import GangScheduling.Application.Schedule

set_option autoImplicit false

namespace GangScheduling

structure Manifest where
  id : String
  queue : String
  user : String
  tags : NameMap String := .empty
  groups : List TaskGroup := []
  policy : SchedulingPolicy := {}
  owners : List OwnerReference := []
  timeoutSeconds : Int64 := 0
deriving DecidableEq

def Manifest.application (manifest : Manifest) : Application :=
  let app : Application :=
    { id := manifest.id
      queue := manifest.queue
      user := manifest.user
      tags := manifest.tags
      policy := manifest.policy
      owners := manifest.owners
      timeoutSeconds := manifest.timeoutSeconds }
  if manifest.groups.isEmpty then app else app.setGroups manifest.groups

structure Registry where
  toList : List Application
  distinct : (toList.map (·.id)).Nodup
deriving DecidableEq

namespace Registry

def empty : Registry := { toList := [], distinct := List.nodup_nil }

instance : Inhabited Registry := ⟨empty⟩

def ids (registry : Registry) : List String :=
  registry.toList.map (·.id)

def find? (registry : Registry) (id : String) : Option Application :=
  registry.toList.find? fun app => app.id = id

def lookup (registry : Registry) (id : String) : Except Error Application :=
  match registry.find? id with
  | some app => .ok app
  | none => .error (.applicationNotFound id)

def insert (registry : Registry) (app : Application) : Registry :=
  if h : app.id ∈ registry.ids then registry
  else
    { toList := registry.toList ++ [app]
      distinct := by
        rw [List.map_append, List.nodup_append]
        refine ⟨registry.distinct, by simp, fun a memA b memB same => ?_⟩
        have last : b = app.id := by simpa using memB
        exact h (last ▸ same ▸ memA) }

def add (registry : Registry) (manifest : Manifest) : Registry :=
  registry.insert manifest.application

def remove (registry : Registry) (id : String) : Registry :=
  { toList := registry.toList.filter fun app => app.id ≠ id
    distinct := (List.Sublist.map _ (List.filter_sublist)).nodup registry.distinct }

def modify (registry : Registry) (id : String) (change : Application → Application) : Registry :=
  { toList := registry.toList.map fun app =>
      if app.id = id then { change app with id := app.id } else app
    distinct := by
      have same : (fun app : Application =>
          (if app.id = id then { change app with id := app.id } else app).id) =
            fun app => app.id := by
        funext app
        split <;> rfl
      simpa [Function.comp_def, same] using registry.distinct }

end Registry

end GangScheduling
