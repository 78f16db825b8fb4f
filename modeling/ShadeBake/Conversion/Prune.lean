import ShadeBake.Reach

/-! Deleting nodes that no longer feed anything. -/

namespace ShadeBake

namespace Network

/-- The network without the nodes of a list. -/
def deleteNodes (network : Network) (names : List String) : Network :=
  names.foldl deleteNode network

/-- The nodes that stay whatever feeds them: all that are no candidates or are kept, and the terminal. -/
def anchors (network : Network) (terminal : String) (candidates keep : NameSet) : List String :=
  (network.nodeNames.filter fun name => !candidates.contains name || keep.contains name) ++ [terminal]

/-- The existing candidates that feed no anchor, in order. -/
def prunable (network : Network) (terminal : String) (candidates keep : NameSet) : List String :=
  -- A candidate that feeds an anchor stays, so nothing that stays can lose a source.
  let live := network.reachable (network.anchors terminal candidates keep)
  candidates.keys.filter fun name => !live.contains name && network.hasNode name

/-- The network without the candidates that feed no anchor, and their names. -/
def prune (network : Network) (terminal : String) (candidates keep : NameSet) :
    Network × List String :=
  let doomed := network.prunable terminal candidates keep
  (network.deleteNodes doomed, doomed)

end Network

end ShadeBake
