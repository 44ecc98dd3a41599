import Morpheus.Runtime
import Morpheus.Critical
import Morpheus.Pacer
import Morpheus.PacedLoop
import Morpheus.EventLoop
import Morpheus.Layout
