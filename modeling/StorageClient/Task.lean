import StorageClient.Text.Quoted
/-!
# StorageClient.Task

Tasks that run beside their caller. A panic in a task does not reach the caller; all it learns is
that the task was lost.
-/

namespace StorageClient.Task

/-- What is said of a task that panicked. -/
def lost (task panic : String) : String :=
  s!"task {task} panicked with message {Text.Quoted.quote panic}"

end StorageClient.Task
