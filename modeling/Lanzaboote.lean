import Lanzaboote.Basic
import Lanzaboote.Pe
import Lanzaboote.Config
import Lanzaboote.Path
import Lanzaboote.EspPath
import Lanzaboote.Tool
import Lanzaboote.Layout
import Lanzaboote.Objcopy
import Lanzaboote.Utf8
import Lanzaboote.Embed
import Lanzaboote.ImageLayout
import Lanzaboote.Policy
import Lanzaboote.ReadAll
import Lanzaboote.Stub
import Lanzaboote.BootSafety
import Lanzaboote.BootContents
import Lanzaboote.InitrdScope
import Lanzaboote.Loader
import Lanzaboote.Measurement
import Lanzaboote.Progress
