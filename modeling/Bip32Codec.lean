import Bip32Codec.Primitives
import Bip32Codec.Base58
import Bip32Codec.Check
import Bip32Codec.Params
import Bip32Codec.Io
import Bip32Codec.Encoder
import Bip32Codec.ReadInversion
import Bip32Codec.KeyKind
import Bip32Codec.RoundTrip
import Bip32Codec.Canonical
import Bip32Codec.Separation
import Bip32Codec.Layout
import Bip32Codec.WithoutNetwork
import Bip32Codec.ShortWrite
import Bip32Codec.TextForm
import Bip32Codec.AnyNetwork
import Bip32Codec.Streaming
