import LandlockCompat.Uapi
import LandlockCompat.Compat.Abi
import LandlockCompat.Compat.Level
import LandlockCompat.Compat.State
import LandlockCompat.Compat.TryCompat
import LandlockCompat.Compat.Negotiation
import LandlockCompat.Ruleset.Compat
import LandlockCompat.Ruleset.Builder
import LandlockCompat.Ruleset.Chain
import LandlockCompat.Ruleset.RulesetChain
import LandlockCompat.Ruleset.Trace
