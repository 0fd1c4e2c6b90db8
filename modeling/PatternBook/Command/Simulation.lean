import PatternBook.Command.Run
import PatternBook.FileSystem

/-!
# Runs on a file system

A run of the program as a function: from a file system and the standard input to a report and the
file system after the run. The paths that match a glob are those of `GlobView`.
-/

namespace PatternBook

/-- A run of the program on a file system. -/
def Command.runOn [GlobView FileSystem.Viewing] (fs : FileSystem) (request : Request)
    (input : Content) : Report × FileSystem :=
  let program : FileSystem.Editing Report := run FileSystem.Viewing request (pure input.read)
  program.run fs

end PatternBook
