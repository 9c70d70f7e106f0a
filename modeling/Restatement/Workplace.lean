import Restatement.FileTree

namespace Restatement

structure Workplace where
  tree : FileTree
  environment : List (Text × Text)

end Restatement
