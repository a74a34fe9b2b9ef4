import PaastaConfig.Basic
import PaastaConfig.DeepMerge
import PaastaConfig.SystemConfig
import PaastaConfig.InstanceLoading
import PaastaConfig.Enumeration
import PaastaConfig.Validation
import PaastaConfig.Volumes
import PaastaConfig.DockerUrl
import PaastaConfig.Regex
import PaastaConfig.Glob
import PaastaConfig.ClusterFiles
import PaastaConfig.SystemConfigCache
import PaastaConfig.InstanceListCache
import PaastaConfig.Interpolation
import PaastaConfig.Constraints
import PaastaConfig.Environment
import PaastaConfig.Getters
import PaastaConfig.InstanceSweeps
