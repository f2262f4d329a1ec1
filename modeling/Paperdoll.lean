import Paperdoll.Main
import Paperdoll.Program.Directory
import Paperdoll.Sample
import Paperdoll.Proofs.Coat
import Paperdoll.Proofs.Outfit
import Paperdoll.Proofs.Imprint
import Paperdoll.Proofs.Layering
import Paperdoll.Proofs.Cover
import Paperdoll.Proofs.Centering
import Paperdoll.Proofs.Refusal
import Paperdoll.Proofs.Replacement
import Paperdoll.Proofs.Pile
import Paperdoll.Proofs.Canonical
import Paperdoll.Proofs.Chain
import Paperdoll.Proofs.Missing
import Paperdoll.Proofs.Resolution
import Paperdoll.Proofs.Tiling
import Paperdoll.Proofs.Opacity
import Paperdoll.Proofs.Picker
import Paperdoll.Proofs.Confinement
import Paperdoll.Proofs.Loading
import Paperdoll.Proofs.Mixing
import Paperdoll.Proofs.Footprint
import Paperdoll.Proofs.Origin
import Paperdoll.Proofs.Keeping
import Paperdoll.Proofs.Tinting
import Paperdoll.Proofs.Saturation
import Paperdoll.Proofs.Overwriting
import Paperdoll.Proofs.Numbering
import Paperdoll.Proofs.NormalForm
import Paperdoll.Proofs.Storing
import Paperdoll.Proofs.Raster
import Paperdoll.Proofs.Extent
