import UserRegistry.World.Folder
import UserRegistry.World.Variables

/-!
# What a program finds around it

The files below its working folder and the variables of its process.
-/

namespace UserRegistry

structure World where
  files : Folder
  vars : Variables

end UserRegistry
